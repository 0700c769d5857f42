import SchemaLink.Yaml.TokenSequence

/-!
# Nodes

The tokens of a document are the marks and leaves of one node: a scalar, a sequence or a mapping. A
node may have a tag and an anchor, and an alias stands for the node with its anchor. Where a node
may stand but none does, there is an empty plain scalar.
-/

namespace SchemaLink.Yaml

mutual

/-- A node of a document. A scalar without a tag is read by its spelling, and a collection without
one by its shape. -/
inductive Node where
  | scalar (tag : Option String) (text : String)
  | sequence (tag : Option String) (items : List Node)
  | mapping (tag : Option String) (entries : Entries)

/-- The entries of a mapping node. -/
inductive Entries where
  | nil
  | cons (key value : Node) (rest : Entries)

end

instance : Inhabited Node := ⟨.scalar none ""⟩

/-- The node that stands where none is written. -/
def Node.empty : Node := .scalar none ""

/-- What is known while the tokens of a document are read. -/
structure Reader where
  tokens : List Token
  /-- The expansions of tag handles. -/
  handles : List (String × String)
  /-- The anchors seen so far; one without a node belongs to a node that is still being read. -/
  anchors : List (String × Option Node)

/-- What stands in front of a node. -/
structure Properties where
  anchor : Option String
  tag : Option String

namespace Reader

/-- The reader after the next token. -/
def next (r : Reader) : Reader := { r with tokens := r.tokens.drop 1 }

/-- The expansions of tag handles that need no directive. -/
def defaultHandles : List (String × String) := [("!", "!"), ("!!", "tag:yaml.org,2002:")]

/-- The full name of a tag. -/
def expand? (r : Reader) (handle : Option String) (suffix : String) : Option String :=
  match handle with
  | none => some suffix
  | some handle => ((r.handles ++ defaultHandles).lookup handle).map (· ++ suffix)

/-- The properties at the reader: an anchor and a tag in either order. -/
def properties? (r : Reader) : Option (Properties × Reader) :=
  match r.tokens with
  | .anchor name :: .tag handle suffix :: _ =>
    (r.expand? handle suffix).map fun tag => (⟨some name, some tag⟩, r.next.next)
  | .tag handle suffix :: .anchor name :: _ =>
    (r.expand? handle suffix).map fun tag => (⟨some name, some tag⟩, r.next.next)
  | .anchor name :: _ => some (⟨some name, none⟩, r.next)
  | .tag handle suffix :: _ =>
    (r.expand? handle suffix).map fun tag => (⟨none, some tag⟩, r.next)
  | _ => some (⟨none, none⟩, r)

end Reader

/-- The tag of texts. -/
def textTag : String := "tag:yaml.org,2002:str"

namespace Properties

/-- The tag of a scalar, unless it is read by its spelling. -/
def scalarTag (p : Properties) (isPlain : Bool) : Option String :=
  match p.tag with
  | none => if isPlain then none else some textTag
  | some "!" => none
  | some tag => some tag

/-- The tag of a collection, unless it is read by its shape. -/
def collectionTag (p : Properties) : Option String := p.tag.filter (· ≠ "!")

/-- Whether an anchor is new to a reader. -/
def isNew (p : Properties) (r : Reader) : Bool :=
  match p.anchor with
  | none => true
  | some name => (r.anchors.lookup name).isNone

/-- The anchor stands for a node, or for one that is still being read. -/
def bind (p : Properties) (n : Option Node) (r : Reader) : Reader :=
  match p.anchor with
  | none => r
  | some name => { r with anchors := (name, n) :: r.anchors }

/-- Whether there are properties at all. -/
def arePresent (p : Properties) : Bool := p.anchor.isSome || p.tag.isSome

end Properties

/-- Where a node stands decides which collections may be there. -/
inductive Place where
  | flow
  | block
  /-- A key or value of a block mapping, which may be a sequence that is not indented. -/
  | entry
  deriving DecidableEq

/-- Whether the next token is one of the given ones, or there is none. -/
def Reader.stopsAt (r : Reader) (stops : List Token) : Bool :=
  match r.tokens with
  | [] => true
  | t :: _ => stops.contains t

/-- The reader after a token that has to be there. -/
def Reader.expect? (r : Reader) (t : Token) : Option Reader :=
  match r.tokens with
  | u :: _ => if u = t then some r.next else none
  | [] => none

/-- Whether the given token comes next. -/
def Reader.sees (r : Reader) (t : Token) : Bool := r.tokens.head? == some t

mutual

/-- The node at the reader. -/
def node? : Nat → Place → Reader → Option (Node × Reader)
  | 0, _, _ => none
  | fuel + 1, place, r =>
    match r.tokens with
    | .aliasOf name :: _ => do
      let n ← (← r.anchors.lookup name)
      return (n, r.next)
    | _ => do
      let (p, r) ← r.properties?
      if !p.isNew r then none
      let (n, r) ← content? fuel place p (p.bind none r)
      return (n, p.bind n r)

/-- The content of a node behind its properties. -/
def content? : Nat → Place → Properties → Reader → Option (Node × Reader)
  | 0, _, _, _ => none
  | fuel + 1, place, p, r =>
    match r.tokens with
    | .scalar text isPlain :: _ => some (.scalar (p.scalarTag isPlain) text, r.next)
    | .flowSequenceStart :: _ =>
      (flowItems? fuel true r.next).map fun (items, r) => (.sequence p.collectionTag items, r)
    | .flowMappingStart :: _ =>
      (flowEntries? fuel true r.next).map fun (entries, r) =>
        (.mapping p.collectionTag entries, r)
    | .blockSequenceStart :: _ =>
      if place = .flow then none
      else do
        let (items, r) ← blockItems? fuel [.blockEntry, .blockEnd] r.next
        return (.sequence p.collectionTag items, ← r.expect? .blockEnd)
    | .blockMappingStart :: _ =>
      if place = .flow then none
      else
        (blockEntries? fuel r.next).map fun (entries, r) => (.mapping p.collectionTag entries, r)
    | .blockEntry :: _ =>
      if place = .entry then
        (blockItems? fuel [.blockEntry, .key, .value, .blockEnd] r).map fun (items, r) =>
          (.sequence p.collectionTag items, r)
      else missing? p r
    | _ => missing? p r

/-- The empty scalar that properties alone stand for. -/
def missing? (p : Properties) (r : Reader) : Option (Node × Reader) :=
  if p.arePresent then some (.scalar (p.scalarTag true) "", r) else none

/-- The node at the reader, or the empty node before a token that ends it. -/
def nodeBefore? : Nat → List Token → Place → Reader → Option (Node × Reader)
  | 0, _, _, _ => none
  | fuel + 1, stops, place, r =>
    if r.stopsAt stops then some (.empty, r) else node? fuel place r

/-- The items of a block sequence; an item without content stands before one of the given tokens. -/
def blockItems? : Nat → List Token → Reader → Option (List Node × Reader)
  | 0, _, _ => none
  | fuel + 1, stops, r =>
    if r.sees .blockEntry then do
      let (item, r) ← nodeBefore? fuel stops .block r.next
      let (items, r) ← blockItems? fuel stops r
      return (item :: items, r)
    else some ([], r)

/-- The entries of a block mapping up to its end. -/
def blockEntries? : Nat → Reader → Option (Entries × Reader)
  | 0, _ => none
  | fuel + 1, r =>
    if r.sees .key then do
      let stops := [Token.key, .value, .blockEnd]
      let (key, r) ← nodeBefore? fuel stops .entry r.next
      let (value, r) ←
        if r.sees .value then nodeBefore? fuel stops .entry r.next else some (.empty, r)
      let (entries, r) ← blockEntries? fuel r
      return (.cons key value entries, r)
    else (r.expect? .blockEnd).map fun r => (.nil, r)

/-- The value behind a key in a flow collection with the given last token. -/
def flowValue? : Nat → Token → Reader → Option (Node × Reader)
  | 0, _, _ => none
  | fuel + 1, last, r =>
    if r.sees .value then nodeBefore? fuel [.flowEntry, last] .flow r.next else some (.empty, r)

/-- The items of a flow sequence up to its end. A key among them starts a mapping of one entry. -/
def flowItems? : Nat → Bool → Reader → Option (List Node × Reader)
  | 0, _, _ => none
  | fuel + 1, isFirst, r => do
    let last := Token.flowSequenceEnd
    if r.sees last then return ([], r.next)
    let r ← if isFirst then some r else r.expect? .flowEntry
    if r.sees last then return ([], r.next)
    let (item, r) ←
      if r.sees .key then do
        let (key, r) ← nodeBefore? fuel [.value, .flowEntry, last] .flow r.next
        let (value, r) ← flowValue? fuel last r
        some (.mapping none (.cons key value .nil), r)
      else node? fuel .flow r
    let (items, r) ← flowItems? fuel false r
    return (item :: items, r)

/-- The entries of a flow mapping up to its end. A node that is no key has an empty value. -/
def flowEntries? : Nat → Bool → Reader → Option (Entries × Reader)
  | 0, _, _ => none
  | fuel + 1, isFirst, r => do
    let last := Token.flowMappingEnd
    if r.sees last then return (.nil, r.next)
    let r ← if isFirst then some r else r.expect? .flowEntry
    if r.sees last then return (.nil, r.next)
    let (key, value, r) ←
      if r.sees .key then do
        let (key, r) ← nodeBefore? fuel [.value, .flowEntry, last] .flow r.next
        let (value, r) ← flowValue? fuel last r
        some (key, value, r)
      else (node? fuel .flow r).map fun (key, r) => (key, Node.empty, r)
    let (entries, r) ← flowEntries? fuel false r
    return (.cons key value entries, r)

end

/-- The directives before a document. There is at most one for the version, which is 1, and for each
tag handle. -/
def directives? : List Token → Bool → List (String × String) →
    Option (List (String × String) × List Token)
  | .version major :: rest, seen, handles =>
    if seen || major ≠ 1 then none else directives? rest true handles
  | .tagHandle handle expansion :: rest, seen, handles =>
    if (handles.lookup handle).isSome then none
    else directives? rest seen ((handle, expansion) :: handles)
  | .otherDirective :: rest, seen, handles => directives? rest seen handles
  | rest, _, handles => some (handles, rest)

/-- Whether a token is a directive. -/
def Token.isDirective : Token → Bool
  | .version _ | .tagHandle _ _ | .otherDirective => true
  | _ => false

/-- The root node of a document that starts with the given tokens, and the tokens behind it. -/
def rootNode? (tokens : List Token) (handles : List (String × String)) :
    Option (Node × List Token) :=
  (node? (4 * tokens.length + 4) .block ⟨tokens, handles, []⟩).map fun (n, r) => (n, r.tokens)

/-- The root node of the only document of some tokens; there may be no document at all. -/
def Node.ofTokens? (tokens : List Token) : Option (Option Node) := do
  if tokens.isEmpty then return none
  let explicit := tokens.head?.any fun t => t.isDirective || t = .documentStart
  let (root, rest) ←
    if explicit then do
      let (handles, rest) ← directives? tokens false []
      match rest with
      | .documentStart :: rest =>
        if rest.head?.all fun t => t.isDirective || t = .documentStart || t = .documentEnd then
          some (Node.empty, rest)
        else rootNode? rest handles
      | _ => none
    else rootNode? tokens []
  if rest.dropWhile (· = .documentEnd) = [] then return some root else none

end SchemaLink.Yaml
