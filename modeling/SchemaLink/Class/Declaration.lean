import SchemaLink.Class.Builtin

/-!
# Declared classes

A declaration gives the kind of a class, its bases and its members. The kind decides which bases
and members come on top: a protocol lists the protocol base itself, a data class gets members for
construction and comparison, a named tuple is a tuple with a list of fields, and a typed mapping is
a plain mapping. Ancestors may have a hook that adds members to every new descendant: generics keep
record of their type parameters, and protocols are marked and get a constructor of their own. Some
of these members stand whatever the body lists, others only where it lists none.
-/

namespace SchemaLink.Class

/-- The kinds of declared classes. -/
inductive Kind where
  | plain
  | abstractBase
  | protocol
  | dataClass
  | namedTuple
  | typedMapping
  deriving DecidableEq, Repr, Inhabited

/-- A class as it is declared. -/
structure Declaration where
  id : String
  name : String
  kind : Kind
  /-- The identifiers of the bases. -/
  bases : List String
  /-- The type parameters. -/
  parameters : List String
  methods : List String
  required : List String
  /-- The fields of a named tuple, which are members of it. -/
  fields : List String
  attributes : List (String × Datum)

/-- The member that marks a class as a protocol. -/
def protocolMember : String := "_is_protocol"

/-- The member that a data class has. -/
def dataClassMember : String := "__dataclass_fields__"

/-- The member that a named tuple has. -/
def namedTupleMember : String := "_fields"

/-- The member that a typed mapping has. -/
def typedMappingMember : String := "__required_keys__"

/-- The member that takes the type arguments of a class. -/
def subscriptMember : String := "__class_getitem__"

/-- The member in which a generic class keeps record of its type parameters. -/
def parametersMember : String := "__parameters__"

/-- The member that is called for every new descendant of a class. -/
def hookMember : String := "__init_subclass__"

/-- The member that sets up new values of a class. -/
def constructorMember : String := "__init__"

/-- The members that the body of a class lists. -/
def Declaration.listed (d : Declaration) : List String :=
  d.methods ++ d.attributes.map Prod.fst ++ d.required

/-- The members that the kind of a class sets, whatever its body lists. A data class renews its
account of requirements when the record of the account stands among its members already. -/
def Declaration.kindMembers (d : Declaration) : List String :=
  match d.kind with
  | .dataClass => [dataClassMember, "__dataclass_params__", "_abc_impl"]
  | .namedTuple => [namedTupleMember, "__getnewargs__", "__new__", "_asdict", "_field_defaults",
      "_make", "_replace"] ++ d.fields
  | .typedMapping => [typedMappingMember, "__optional_keys__", "__total__"]
  | _ => []

/-- The members that the kind of a class adds where its body lists none. A named tuple with type
parameters takes its type arguments as the generic base does. -/
def Declaration.kindDefaults (d : Declaration) : List String :=
  match d.kind with
  | .dataClass => ["__eq__", constructorMember, "__match_args__", "__repr__"]
  | .namedTuple => ["__match_args__", "__repr__"]
      ++ if d.parameters.isEmpty then [] else [subscriptMember]
  | _ => []

/-- The base of generics, for a class with type parameters. It gives way to the protocol base. -/
def Declaration.genericBases (d : Declaration) (declared : List Class) : List Class :=
  if d.parameters.isEmpty || declared.contains Builtin.protocol then [] else [Builtin.generic]

/-- The bases that the kind and the parameters of a class bring, after the declared ones. -/
def Declaration.impliedBases (d : Declaration) (declared : List Class) : List Class :=
  let generic := d.genericBases declared
  match d.kind with
  | .plain | .dataClass => generic
  | .abstractBase => Builtin.abstractBase :: generic
  | .protocol => [Builtin.protocol]
  | .namedTuple => Builtin.tuple :: generic
  | .typedMapping => generic ++ [Builtin.dict]

/-- The ancestors whose hooks run for a new class: the first one that has a hook, which only hands
on to a later one if it is a base of the typing module. -/
def runningHooks : List ClassBody → List ClassBody
  | [] => []
  | body :: rest =>
    if (body.member? hookMember).isNone then runningHooks rest
    else if body = Builtin.generic.body ∨ body = Builtin.protocol.body then
      body :: runningHooks rest
    else []

/-- Whether the class is marked as a protocol: by hand, or else by the hook of the protocol base
because it lists that base itself. The mark is not inherited. -/
def Declaration.marked (d : Declaration) (bases : List Class) (ancestors : List ClassBody) : Bool :=
  match d.attributes.lookup protocolMember with
  | some value => value.truthy
  | none => (d.methods ++ d.required).contains protocolMember ||
      bases.contains Builtin.protocol && Builtin.protocol.body ∈ runningHooks ancestors

/-- Whether the constructor of a class would be that of all objects. -/
def Declaration.lacksConstructor (d : Declaration) (ancestors : List ClassBody) : Bool :=
  !d.listed.contains constructorMember &&
    ancestors.find? (fun body => (body.member? constructorMember).isSome)
      = some Builtin.object.body

/-- The members that are set whatever the body lists: those of the kind, and the records of type
parameters. -/
def Declaration.imposed (d : Declaration) (ancestors : List ClassBody) : List String :=
  d.kindMembers
    ++ (if d.parameters.isEmpty then [] else ["__orig_bases__"])
    ++ if Builtin.generic.body ∈ runningHooks ancestors then [parametersMember] else []

/-- The members that the hook of the protocol base adds where the body lists none. A protocol gets a
constructor, so that it makes no values. -/
def Declaration.protocolDefaults (d : Declaration) (bases : List Class)
    (ancestors : List ClassBody) : List String :=
  if Builtin.protocol.body ∈ runningHooks ancestors then
    let constructor :=
      if d.marked bases ancestors && d.lacksConstructor ancestors then [constructorMember] else []
    [protocolMember, "__subclasshook__"] ++ constructor
  else []

/-- The members that are added where the body lists none. A class that defines equality defines its
hash as well. -/
def Declaration.defaults (d : Declaration) (bases : List Class) (ancestors : List ClassBody) :
    List String :=
  ["__doc__", "__module__"] ++ d.kindDefaults ++ d.protocolDefaults bases ancestors
    ++ if "__eq__" ∈ d.listed ++ d.kindDefaults then ["__hash__"] else []

/-- The members with content. -/
def Declaration.concrete (d : Declaration) (bases : List Class) (ancestors : List ClassBody) :
    List String :=
  d.methods ++ d.attributes.map Prod.fst ++ d.imposed ancestors ++ d.defaults bases ancestors

/-- The requirements: an attribute stands in the place of one. -/
def Declaration.openMembers (d : Declaration) (ancestors : List ClassBody) : List String :=
  d.required.filter fun name =>
    name ∉ d.attributes.map Prod.fst ∧ name ∉ d.imposed ancestors

/-- The class with an identifier, among the given ones. -/
def find? (classes : List Class) (id : String) : Option Class :=
  classes.find? fun c => c.body.id = id

/-- The bases of a class, out of the declared ones. A typed mapping only ever derives from the plain
mapping, and so does a class that is declared with one as its base. -/
def Declaration.allBases (d : Declaration) (declared : List Class) : List Class :=
  match d.kind with
  | .namedTuple | .typedMapping => d.impliedBases declared
  | _ =>
    match declared ++ d.impliedBases declared with
    | [] => [Builtin.object]
    | bases => bases

/-- A class that is declared with a typed mapping as its base is one itself. -/
def Declaration.adjust (d : Declaration) (declared : List Class) : Declaration :=
  if declared.any fun c => c.defines typedMappingMember then { d with kind := .typedMapping } else d

/-- The definition that a declaration stands for, if its bases stand among the given classes and
have a common resolution order. -/
def Declaration.definition? (classes : List Class) (d : Declaration) : Option Definition := do
  let declared ← d.bases.mapM (find? classes)
  let d := d.adjust declared
  let bases := d.allBases declared
  let ancestors ← linearize? bases
  return { id := d.id, name := d.name, path := "__main__." ++ d.name, bases
           concrete := d.concrete bases ancestors
           required := d.openMembers ancestors
           marked := d.marked bases ancestors }

/-- The class of a declaration whose bases stand among the given classes. -/
def declare? (classes : List Class) (d : Declaration) : Option Class := do
  ofDefinition? (← d.definition? classes)

/-- All classes of a list of declarations, each with the earlier ones and the given ones as
possible bases. A declaration without a class is passed over. -/
def declareAll (classes : List Class) : List Declaration → List Class
  | [] => classes
  | d :: rest =>
    match declare? classes d with
    | some c => declareAll (c :: classes) rest
    | none => declareAll classes rest

/-- The class as it is written in messages. -/
def written (c : Class) : String :=
  if c = Builtin.anyType then c.path
  else if c.derives Builtin.flag then "<flag " ++ Text.quote c.name ++ ">"
  else if c.derives Builtin.enumeration then "<enum " ++ Text.quote c.name ++ ">"
  else "<class '" ++ c.path ++ "'>"

end SchemaLink.Class
