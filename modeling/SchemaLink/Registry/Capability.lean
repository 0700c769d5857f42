import SchemaLink.Registry.Basic

/-!
# Capabilities of type hints

A protocol is a class that is marked as one or leaves a requirement open; types that only implement
it are none. A hint is representable when its values can be written as schema values: wrappers are
looked through, names are taken on trust, and a leaf is representable when it is a protocol, when it
is linked, or when its class is of a representable kind.
-/

namespace SchemaLink

namespace Class

/-- Classes whose descendants are representable. -/
def representableBases : List Class :=
  [ Builtin.str, Builtin.int, Builtin.float, Builtin.bool, Builtin.noneType, Builtin.list,
    Builtin.mapping, Builtin.dict, Builtin.mappingProxy, Builtin.enumeration, Builtin.dataModel ]

/-- Whether values of the class can be written as schema values. -/
def isRepresentable (c : Class) : Bool :=
  representableBases.any (fun base => c.derives base)
    || c.defines dataClassMember
    || (c.derives Builtin.tuple && c.defines namedTupleMember)

/-- Whether the class is a contract for other classes. -/
def isProtocol (c : Class) : Bool := c.marked || c.isAbstract

end Class

namespace TypeHint

/-- The class that a hint is or is an alias of. -/
def leafClass? : TypeHint → Option Class
  | .cls c | .bare c | .generic _ c _ => some c
  | _ => Option.none

/-- Whether a hint is a protocol. -/
def isProtocol (t : TypeHint) : Bool :=
  match t.stripAnnotated with
  | .cls c => c.isProtocol
  | _ => false

/-- Whether the class of a leaf makes it representable. -/
def isRepresentableLeaf (t : TypeHint) : Bool :=
  match t.leafClass? with
  | some c => c.isRepresentable
  | Option.none => false

/-- Whether a registry, if there is one, links a hint. -/
def isLinked (registry : Option Registry) (t : TypeHint) : Except Unhashable Bool :=
  match registry with
  | Option.none => .ok false
  | some r => r.contains t

/-- Whether values of a hint can be written as schema values, with the links of a registry if there
is one. -/
def isRepresentable (registry : Option Registry) (t : TypeHint) : Except Unhashable Bool :=
  if t.isProtocol then .ok true
  else
    match _hw : t.classify with
    | some w =>
      if _hname : w.modifier = .reference ∧ w.wrapped.isName = true then .ok true
      else isRepresentable registry w.wrapped
    | Option.none => do
      let leaf := t.stripAnnotated
      if (← leaf.isLinked registry) then return true
      return leaf.isRepresentableLeaf
termination_by sizeOf t
decreasing_by
  rcases classify_wrapped _hw with hlt | ⟨hn, rfl⟩
  · exact hlt
  · exact absurd ⟨rfl, hn⟩ _hname

end TypeHint

end SchemaLink
