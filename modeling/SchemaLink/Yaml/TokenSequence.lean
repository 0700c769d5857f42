import SchemaLink.Yaml.Token

/-!
# The token sequence of a text

Indentation and colons have tokens of their own. A line that is indented deeper than the open
collections starts a new one, and a line that is indented less ends those below it. Whether a node
is a key is only known at the colon behind it: until then its position is remembered, and the colon
puts the mark of a key in front of it. A key stands on one line and within 1024 characters.
-/

namespace SchemaLink.Yaml

/-- The start of a node that may turn out to be a key. -/
structure PossibleKey where
  /-- The number of tokens before the node. -/
  tokens : Nat
  /-- Whether the node must be a key, because it stands at the indentation of an open mapping. -/
  required : Bool
  position : Cursor

/-- The tokens read so far, and where the reading stands. -/
structure Lexer where
  cursor : Cursor
  /-- The tokens read so far, the latest first. -/
  tokens : List Token
  /-- The indentation of the innermost block collection, or `-1` outside of all. -/
  indent : Int
  /-- The indentations of the collections around it. -/
  indents : List Int
  /-- Whether a node at the cursor may be a key. -/
  keyAllowed : Bool
  /-- The possible key at this flow level. -/
  key : Option PossibleKey
  /-- The possible keys at the flow levels around it. -/
  outerKeys : List (Option PossibleKey)
  /-- A number that no loop over the text exceeds. -/
  bound : Nat

namespace Lexer

/-- The start of a text. A byte-order mark is passed over. -/
def start (text : List Char) : Lexer :=
  let c := Cursor.start text
  { cursor := if c.sees '\ufeff' then c.advance else c
    tokens := [], indent := -1, indents := [], keyAllowed := true, key := none, outerKeys := []
    bound := text.length + 1 }

/-- Whether the cursor stands inside a flow collection. -/
def inFlow (l : Lexer) : Bool := !l.outerKeys.isEmpty

/-- One more token. -/
def push (t : Token) (l : Lexer) : Lexer := { l with tokens := t :: l.tokens }

/-- A token that was read up to a position. -/
def emit (t : Token) (c : Cursor) (l : Lexer) : Lexer := { l.push t with cursor := c }

/-- A token of a few characters. -/
def emitSkip (t : Token) (width : Nat) (l : Lexer) : Lexer := l.emit t (l.cursor.skip width)

/-- A token in front of those that follow the given number of tokens. -/
def pushAt (count : Nat) (t : Token) (l : Lexer) : Lexer :=
  { l with tokens := l.tokens.insertIdx (l.tokens.length - count) t }

/-- Blanks, comments and line breaks before the next token are passed over. A node at the start of
a line may be a key. -/
def skipBlank : Nat → Lexer → Lexer
  | 0, l => l
  | fuel + 1, l =>
    let c := l.cursor.skipComment
    match c.peek with
    | some x =>
      if isBreak x then
        skipBlank fuel { l with cursor := c.advance, keyAllowed := l.keyAllowed || !l.inFlow }
      else { l with cursor := c }
    | none => { l with cursor := c }

/-- Whether a possible key is too far behind the cursor. -/
def isStale (l : Lexer) (k : PossibleKey) : Bool :=
  k.position.line ≠ l.cursor.line || k.position.index + 1024 < l.cursor.index

/-- Possible keys that are too far behind the cursor are given up, unless one has to be a key. -/
def dropStale? (l : Lexer) : Option Lexer :=
  if (l.key :: l.outerKeys).any fun key => key.any fun k => k.required && l.isStale k then none
  else
    let keep (key : Option PossibleKey) := key.filter fun k => !l.isStale k
    some { l with key := keep l.key, outerKeys := l.outerKeys.map keep }

/-- The possible key at this level is given up, unless it has to be a key. -/
def dropKey? (l : Lexer) : Option Lexer :=
  if l.key.any PossibleKey.required then none else some { l with key := none }

/-- The node at the cursor may turn out to be a key, if keys are allowed here. -/
def noteKey? (l : Lexer) : Option Lexer :=
  if l.keyAllowed then
    l.dropKey?.map fun l =>
      let required := !l.inFlow && l.indent = l.cursor.column
      { l with key := some ⟨l.tokens.length, required, l.cursor⟩ }
  else some l

/-- Block collections that are indented deeper than a column end. -/
def unwind (column : Int) : List Int → Lexer → Lexer
  | [], l => { l with indents := [] }
  | outer :: rest, l =>
    if column < l.indent then unwind column rest { l.push .blockEnd with indent := outer }
    else { l with indents := outer :: rest }

/-- Block collections that are indented deeper than a column end, outside of flow collections. -/
def closeBlocks (column : Int) (l : Lexer) : Lexer :=
  if l.inFlow then l else unwind column l.indents l

/-- A column deeper than the current indentation starts a block collection. -/
def openBlock (column : Nat) (count : Nat) (t : Token) (l : Lexer) : Lexer :=
  if l.indent < column then
    { l.pushAt count t with indent := column, indents := l.indent :: l.indents }
  else l

/-- A block collection starts at the cursor, if its column is deeper than the current
indentation. -/
def openHere (t : Token) (l : Lexer) : Lexer :=
  if l.inFlow then l else l.openBlock l.cursor.column l.tokens.length t

/-- A mark that needs a key to be allowed outside of flow collections. -/
def requireKeyAllowed? (l : Lexer) : Option Lexer :=
  if l.inFlow || l.keyAllowed then some l else none

/-- All block collections and possible keys end. -/
def finishBlocks? (l : Lexer) : Option Lexer :=
  (l.closeBlocks (-1)).dropKey?.map fun l => { l with keyAllowed := false }

/-- A document marker. -/
def marker? (t : Token) (l : Lexer) : Option Lexer := l.finishBlocks?.map (emitSkip t 3)

/-- A directive. -/
def directive? (l : Lexer) : Option Lexer := do
  let l ← l.finishBlocks?
  let (t, c) ← l.cursor.directive
  return l.emit t c

/-- The start of a flow collection. -/
def flowStart? (t : Token) (l : Lexer) : Option Lexer :=
  l.noteKey?.map fun l =>
    { l.emitSkip t 1 with keyAllowed := true, key := none, outerKeys := l.key :: l.outerKeys }

/-- The end of a flow collection. -/
def flowEnd? (t : Token) (l : Lexer) : Option Lexer := do
  let l ← l.dropKey?
  match l.outerKeys with
  | [] => none
  | key :: outerKeys => some { l.emitSkip t 1 with keyAllowed := false, key, outerKeys }

/-- A comma between the items of a flow collection. -/
def flowEntry? (l : Lexer) : Option Lexer :=
  l.dropKey?.map fun l => { l.emitSkip .flowEntry 1 with keyAllowed := true }

/-- A dash before an item of a block sequence. -/
def blockEntry? (l : Lexer) : Option Lexer := do
  let l ← l.requireKeyAllowed?
  let l ← (l.openHere .blockSequenceStart).dropKey?
  return { l.emitSkip .blockEntry 1 with keyAllowed := true }

/-- A question mark before a key. -/
def explicitKey? (l : Lexer) : Option Lexer := do
  let l ← l.requireKeyAllowed?
  let l ← (l.openHere .blockMappingStart).dropKey?
  return { l.emitSkip .key 1 with keyAllowed := !l.inFlow }

/-- A colon before a value. The possible key at this level becomes a key. -/
def value? (l : Lexer) : Option Lexer :=
  match l.key with
  | some k =>
    let l := { l.pushAt k.tokens .key with key := none, keyAllowed := false }
    let l := if l.inFlow then l else l.openBlock k.position.column k.tokens .blockMappingStart
    some (l.emitSkip .value 1)
  | none => do
    let l ← l.requireKeyAllowed?
    let l := { l.openHere .blockMappingStart with keyAllowed := !l.inFlow }
    return l.emitSkip .value 1

/-- A node of one token, read by the given function. -/
def node? (read : Cursor → Option (Token × Cursor)) (l : Lexer) : Option Lexer := do
  let l ← l.noteKey?
  let (t, c) ← read l.cursor
  return { l.emit t c with keyAllowed := false }

/-- A quoted scalar. -/
def quoted? (mark : Char) (l : Lexer) : Option Lexer :=
  l.node? fun c =>
    (c.advance.quoted mark l.bound).map fun (text, c) => (.scalar (String.ofList text) false, c)

/-- An alias or an anchor. -/
def named? (t : String → Token) (l : Lexer) : Option Lexer :=
  l.node? fun c => c.advance.anchorName.map fun (name, c) => (t name, c)

/-- A block scalar. -/
def blockScalar? (folded : Bool) (l : Lexer) : Option Lexer := do
  let l ← l.dropKey?
  let (text, c) ← l.cursor.advance.blockScalar folded l.indent l.bound
  return { l.emit (.scalar (String.ofList text) false) c with keyAllowed := true }

/-- A plain scalar. A node in the line after it may be a key. -/
def plain? (l : Lexer) : Option Lexer :=
  l.noteKey?.map fun l =>
    let (text, broken, c) := l.cursor.plainScalar l.inFlow (l.indent + 1) l.bound []
    { l.emit (.scalar (String.ofList text) true) c with keyAllowed := broken }

/-- Whether a plain scalar starts with a character before the given next one. -/
def startsPlain (inFlow : Bool) (x : Char) (next : Option Char) : Bool :=
  !"\t -?:,[]\x7b\x7d#&*!|>'\"%@\x60".toList.contains x && !isBreak x
    || (!endsWord next && (x = '-' || (!inFlow && (x = '?' || x = ':'))))

/-- The token at the cursor, which starts with the given character. -/
def next? (x : Char) (l : Lexer) : Option Lexer :=
  let c := l.cursor
  let wordEnds := endsWord (c.at? 1)
  if c.column = 0 ∧ x = '%' then l.directive?
  else if c.column = 0 ∧ c.seesMarker then
    l.marker? (if x = '-' then .documentStart else .documentEnd)
  else if x = '[' then l.flowStart? .flowSequenceStart
  else if x = '\x7b' then l.flowStart? .flowMappingStart
  else if x = ']' then l.flowEnd? .flowSequenceEnd
  else if x = '\x7d' then l.flowEnd? .flowMappingEnd
  else if x = ',' then l.flowEntry?
  else if x = '-' ∧ wordEnds then l.blockEntry?
  else if x = '?' ∧ (l.inFlow ∨ wordEnds) then l.explicitKey?
  else if x = ':' ∧ (l.inFlow ∨ wordEnds) then l.value?
  else if x = '*' then l.named? .aliasOf
  else if x = '&' then l.named? .anchor
  else if x = '!' then l.node? Cursor.tagToken
  else if x = '|' ∧ !l.inFlow then l.blockScalar? false
  else if x = '>' ∧ !l.inFlow then l.blockScalar? true
  else if x = '\x27' ∨ x = '\x22' then l.quoted? x
  else if startsPlain l.inFlow x (c.at? 1) then l.plain?
  else none

/-- The tokens of the rest of the text, after those read so far. -/
def run : Nat → Lexer → Option (List Token)
  | 0, _ => none
  | fuel + 1, l => do
    let l ← (l.skipBlank l.bound).dropStale?
    let l := l.closeBlocks l.cursor.column
    match l.cursor.peek with
    | none => (l.closeBlocks (-1)).dropKey?.map fun l => l.tokens.reverse
    | some x => run fuel (← l.next? x)

end Lexer

/-- The tokens of a text, if it is well-formed so far. -/
def tokens? (text : List Char) : Option (List Token) :=
  (Lexer.start text).run (text.length + 1)

end SchemaLink.Yaml
