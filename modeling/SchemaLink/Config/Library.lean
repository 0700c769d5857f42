import SchemaLink.Config.Import

/-!
# Installed modules

The modules that import paths may name without any being added: those of the standard library whose
classes are linked most often, the built-in schema types, and a module of scalars for decimals and
dates.
-/

namespace SchemaLink.Module

/-- A class as a member of a module. -/
def classMember (c : Class) : String × Imported := (c.name, .hint (.cls c))

/-- A scalar as a member of a module. -/
def scalarMember (member name : String) : String × Imported :=
  (member, .schema (.named (.scalar name)))

/-- The scalars for decimals and dates. -/
def scalars : Module :=
  { name := "graphmap.typemap.testmods.scalars", isPackage := false
    members :=
      [ scalarMember "DecimalScalar" "Decimal",
        scalarMember "DateScalar" "Date",
        ("RequiredDecimal", .schema (.nonNull (.named (.scalar "Decimal")))),
        ("DATE_LINK",
          .tuple [.hint (.cls Class.Builtin.date), .schema (.named (.scalar "Date"))]),
        ("NOT_A_GRAPHQL_TYPE", .hint (.text "Decimal")),
        classMember Class.Builtin.date,
        classMember Class.Builtin.decimal ] }

/-- The modules that are always there. -/
def installed : List Module :=
  [ { name := "decimal", isPackage := false, members := [classMember Class.Builtin.decimal] },
    { name := "datetime", isPackage := false
      members := [Class.Builtin.date, Class.Builtin.datetime, Class.Builtin.time,
        Class.Builtin.timedelta].map classMember },
    { name := "uuid", isPackage := false, members := [classMember Class.Builtin.uuid] },
    { name := "builtins", isPackage := false
      members := [Class.Builtin.int, Class.Builtin.str, Class.Builtin.float, Class.Builtin.bool,
        Class.Builtin.bytes, Class.Builtin.complex, Class.Builtin.dict, Class.Builtin.list,
        Class.Builtin.set, Class.Builtin.tuple, Class.Builtin.object].map classMember },
    { name := "graphql", isPackage := true
      members := [ scalarMember "GraphQLID" "ID", scalarMember "GraphQLFloat" "Float",
        scalarMember "GraphQLInt" "Int", scalarMember "GraphQLString" "String",
        scalarMember "GraphQLBoolean" "Boolean" ] },
    { name := "graphmap", isPackage := true, members := [] },
    { name := "graphmap.typemap", isPackage := true, members := [] },
    { name := "graphmap.typemap.testmods", isPackage := true, members := [] },
    scalars ]

end SchemaLink.Module
