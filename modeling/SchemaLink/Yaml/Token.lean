import SchemaLink.Text.Digits
import SchemaLink.Yaml.Cursor

/-!
# Tokens of configuration text

Tokens are the marks of the block and flow structure, properties of nodes, and scalars. This module
reads the tokens that span several characters: scalars of every style, names of anchors, tags and
directives. A text that does not have the shape of its token has no reading.
-/

namespace SchemaLink.Yaml

/-- A token of configuration text. -/
inductive Token where
  | version (major : Nat)
  | tagHandle (handle : String) (expansion : String)
  | otherDirective
  | documentStart
  | documentEnd
  | blockSequenceStart
  | blockMappingStart
  | blockEnd
  | flowSequenceStart
  | flowSequenceEnd
  | flowMappingStart
  | flowMappingEnd
  | blockEntry
  | flowEntry
  | key
  | value
  | aliasOf (name : String)
  | anchor (name : String)
  | tag (handle : Option String) (suffix : String)
  | scalar (text : String) (isPlain : Bool)
  deriving DecidableEq, Repr, Inhabited

namespace Cursor

/-- The rest of a line, which holds nothing but a comment. -/
def finishLine? (c : Cursor) : Option Cursor :=
  let c := c.skipComment
  if endsLine c.peek then some c else none

/-! Quoted scalars. -/

/-- The line breaks, and the blanks around them, at the cursor. A document marker must not stand at
the start of a line. -/
def quotedBreaks : Nat → Cursor → Option (List Char × Cursor)
  | 0, _ => none
  | fuel + 1, c =>
    if c.seesMarker then none
    else
      let c := c.skipWhile isSpace
      match c.peek with
      | some x =>
        if isBreak x then
          (quotedBreaks fuel c.advance).map fun (more, c) => (breakText x ++ more, c)
        else some ([], c)
      | none => some ([], c)

/-- Blanks inside a quoted scalar, folded if they hold a line break. -/
def quotedSpaces (fuel : Nat) (c : Cursor) : Option (List Char × Cursor) :=
  let (blanks, c) := c.takeWhile isSpace
  match c.peek with
  | none => none
  | some x =>
    if isBreak x then
      (quotedBreaks fuel c.advance).map fun (breaks, c) =>
        if breakText x ≠ ['\n'] then (x :: breaks, c)
        else if breaks.isEmpty then ([' '], c)
        else (breaks, c)
    else some (blanks, c)

/-- The character that a letter stands for after a backslash. -/
def escape? (x : Char) : Option Char :=
  [ ('0', '\x00'), ('a', '\x07'), ('b', '\x08'), ('t', '\t'), ('\t', '\t'), ('n', '\n'),
    ('v', '\x0b'), ('f', '\x0c'), ('r', '\r'), ('e', '\x1b'), (' ', ' '), ('\x22', '\x22'),
    ('\\', '\\'), ('/', '/'), ('N', '\x85'), ('_', '\xa0'), ('L', '\u2028'),
    ('P', '\u2029') ].lookup x

/-- How many hexadecimal digits follow a letter after a backslash. -/
def escapeWidth? (x : Char) : Option Nat := [('x', 2), ('u', 4), ('U', 8)].lookup x

/-- The character of an escape with hexadecimal digits. -/
def codePoint? (width : Nat) (c : Cursor) : Option (Char × Cursor) := do
  let digits := c.rest.take width
  if digits.length < width then none
  let code ← Text.digitsValue? 16 digits
  if h : code.isValidChar then some (Char.ofNatAux code h, c.skip width) else none

/-- The text of a quoted scalar up to its closing mark. -/
def quoted (mark : Char) : Nat → Cursor → Option (List Char × Cursor)
  | 0, _ => none
  | fuel + 1, c =>
    match c.peek with
    | none => none
    | some x =>
      let go (text : List Char) (c : Cursor) : Option (List Char × Cursor) :=
        (quoted mark fuel c).map fun (more, c) => (text ++ more, c)
      if x = mark then
        if mark = '\x27' ∧ c.at? 1 = some mark then go [mark] (c.skip 2)
        else some ([], c.advance)
      else if mark = '\x22' ∧ x = '\\' then
        let c := c.advance
        match c.peek with
        | none => none
        | some y =>
          match escape? y, escapeWidth? y with
          | some z, _ => go [z] c.advance
          | none, some width => do
            let (z, c) ← codePoint? width c.advance
            go [z] c
          | none, none =>
            if isBreak y then do
              let (breaks, c) ← quotedBreaks fuel c.advance
              go breaks c
            else none
      else if isSpace x ∨ isBreak x then do
        let (blanks, c) ← quotedSpaces fuel c
        go blanks c
      else go [x] c.advance

/-! Plain scalars. -/

/-- Whether a plain scalar ends before a character. -/
def endsPlain (inFlow : Bool) (c : Cursor) : Bool :=
  match c.peek with
  | none => true
  | some x =>
    isSpace x || isBreak x
      || (x = ':' && (endsWord (c.at? 1)
        || (inFlow && (c.at? 1).any fun y => y ∈ [',', '[', ']', '\x7b', '\x7d'])))
      || (inFlow && x ∈ [',', '?', '[', ']', '\x7b', '\x7d'])

/-- A run of characters that belong to a plain scalar. -/
def plainRun (inFlow : Bool) : Nat → Cursor → List Char × Cursor
  | 0, c => ([], c)
  | fuel + 1, c =>
    match c.peek with
    | none => ([], c)
    | some x =>
      if c.endsPlain inFlow then ([], c)
      else
        let (more, c) := plainRun inFlow fuel c.advance
        (x :: more, c)

/-- The blanks and line breaks at the cursor, as the line breaks alone; nothing if a document marker
stands at the start of a line. -/
def plainBreaks : Nat → Cursor → Option (List Char × Cursor)
  | 0, _ => none
  | fuel + 1, c =>
    match c.peek with
    | some ' ' => plainBreaks fuel c.advance
    | some x =>
      if isBreak x then
        let c := c.advance
        if c.seesMarker then none
        else (plainBreaks fuel c).map fun (more, c) => (breakText x ++ more, c)
      else some ([], c)
    | none => some ([], c)

/-- What stands between two runs of a plain scalar. -/
structure Gap where
  /-- The text that the gap stands for, unless it ends the scalar. -/
  text : Option (List Char)
  /-- Whether the gap holds a line break. -/
  breaksLine : Bool
  after : Cursor

/-- The gap at the cursor. -/
def plainGap (fuel : Nat) (c : Cursor) : Gap :=
  let (blanks, c) := c.takeWhile (· = ' ')
  match c.peek with
  | some x =>
    if isBreak x then
      let c := c.advance
      if c.seesMarker then ⟨none, true, c⟩
      else
        match plainBreaks fuel c with
        | none => ⟨none, true, c⟩
        | some (breaks, c) =>
          if breakText x ≠ ['\n'] then ⟨some (x :: breaks), true, c⟩
          else if breaks.isEmpty then ⟨some [' '], true, c⟩
          else ⟨some breaks, true, c⟩
    else ⟨if blanks.isEmpty then none else some blanks, false, c⟩
  | none => ⟨if blanks.isEmpty then none else some blanks, false, c⟩

/-- A plain scalar, whether a line break follows its last run, and the position after it. -/
def plainScalar (inFlow : Bool) (indent : Int) :
    Nat → List Char → Cursor → List Char × Bool × Cursor
  | 0, _, c => ([], false, c)
  | fuel + 1, before, c =>
    if c.sees '#' then ([], false, c)
    else
      let (run, c) := plainRun inFlow fuel c
      if run.isEmpty then ([], false, c)
      else
        let gap := plainGap fuel c
        let text := before ++ run
        match gap.text with
        | none => (text, gap.breaksLine, gap.after)
        | some blanks =>
          if gap.after.sees '#' || (!inFlow && (gap.after.column : Int) < indent) then
            (text, gap.breaksLine, gap.after)
          else
            let (more, broken, after) := plainScalar inFlow indent fuel blanks gap.after
            if more.isEmpty then (text, gap.breaksLine, gap.after)
            else (text ++ more, broken, after)

/-! Block scalars. -/

/-- The header of a block scalar: whether its last line breaks are kept or dropped, and how far it
is indented. -/
structure BlockHeader where
  keep : Option Bool
  indent : Option Nat

/-- A chomping indicator. -/
def chomping? : Option Char → Option Bool
  | some '+' => some true
  | some '-' => some false
  | _ => none

/-- An indentation indicator. -/
def indentation? : Option Char → Option Nat
  | some x => if x.isDigit then some (x.toNat - '0'.toNat) else none
  | none => none

/-- The indicators of a block scalar, in either order. -/
def blockHeader (c : Cursor) : Option (BlockHeader × Cursor) :=
  let (header, c) : BlockHeader × Cursor :=
    match chomping? c.peek, indentation? c.peek with
    | some keep, _ =>
      match indentation? (c.at? 1) with
      | some n => (⟨some keep, some n⟩, c.skip 2)
      | none => (⟨some keep, none⟩, c.advance)
    | none, some n =>
      match chomping? (c.at? 1) with
      | some keep => (⟨some keep, some n⟩, c.skip 2)
      | none => (⟨none, some n⟩, c.advance)
    | none, none => (⟨none, none⟩, c)
  if header.indent = some 0 then none
  else if endsWord c.peek && c.peek ≠ some '\t' then some (header, c)
  else none

/-- The empty lines at the cursor, and the greatest indentation among them and the next line. -/
def leadingLines : Nat → Nat → Cursor → List Char × Nat × Cursor
  | 0, deepest, c => ([], deepest, c)
  | fuel + 1, deepest, c =>
    match c.peek with
    | some ' ' =>
      let c := c.advance
      leadingLines fuel (max deepest c.column) c
    | some x =>
      if isBreak x then
        let (more, deepest, c) := leadingLines fuel deepest c.advance
        (breakText x ++ more, deepest, c)
      else ([], deepest, c)
    | none => ([], deepest, c)

/-- The empty lines at the cursor, and the position in the next line below an indentation. -/
def emptyLines (indent : Nat) : Nat → Cursor → List Char × Cursor
  | 0, c => ([], c)
  | fuel + 1, c =>
    let c := c.skipIndent indent
    match c.peek with
    | some x =>
      if isBreak x then
        let (more, c) := emptyLines indent fuel c.advance
        (breakText x ++ more, c)
      else ([], c)
    | none => ([], c)

/-- The lines of a block scalar: its text, its last line break, and the empty lines after it. -/
def blockLines (folded : Bool) (indent : Nat) :
    Nat → List Char → Cursor → List Char × List Char × List Char × Cursor
  | 0, breaks, c => ([], [], breaks, c)
  | fuel + 1, breaks, c =>
    if c.column = indent ∧ c.peek.isSome then
      let flush := !(c.peek.any isSpace)
      let (line, c) := c.takeWhile fun x => !isBreak x
      let (ending, c) := match c.peek with
        | some x => (breakText x, c.advance)
        | none => ([], c)
      let (after, c) := emptyLines indent fuel c
      if c.column = indent ∧ c.peek.isSome then
        let joint :=
          if folded && ending == ['\n'] && flush && !(c.peek.any isSpace) then
            if after.isEmpty then [' '] else []
          else ending
        let (more, last, trailing, c) := blockLines folded indent fuel after c
        (breaks ++ line ++ joint ++ more, last, trailing, c)
      else (breaks ++ line, ending, after, c)
    else ([], [], breaks, c)

/-- A block scalar below an indentation. -/
def blockScalar (folded : Bool) (parent : Int) (fuel : Nat) (c : Cursor) :
    Option (List Char × Cursor) := do
  let (header, c) ← blockHeader c
  let c ← c.finishLine?
  let c := c.advance
  let least := max (parent + 1) 1
  let (indent, breaks, c) : Nat × List Char × Cursor :=
    match header.indent with
    | some n =>
      let indent := (least + n - 1).toNat
      let (breaks, c) := emptyLines indent fuel c
      (indent, breaks, c)
    | none =>
      let (breaks, deepest, c) := leadingLines fuel 0 c
      (max least.toNat deepest, breaks, c)
  let (text, last, trailing, c) := blockLines folded indent fuel breaks c
  let text := if header.keep = some false then text else text ++ last
  some (if header.keep = some true then text ++ trailing else text, c)

/-! Names, tags and directives. -/

/-- The name of an anchor or an alias. -/
def anchorName (c : Cursor) : Option (String × Cursor) :=
  let (name, c) := c.takeWhile isNameChar
  let ends := endsWord c.peek
    || (c.peek.any fun x => x ∈ ['?', ':', ',', ']', '\x7d', '%', '@', '\x60'])
  if name.isEmpty || !ends then none else some (String.ofList name, c)

/-- The characters of a tag's name. -/
def tagName (c : Cursor) : Option (String × Cursor) :=
  let (name, c) := c.takeWhile fun x =>
    x.isAlphanum || "-;/?:@&=+$,_.!~*'()[]".toList.contains x
  if name.isEmpty then none else some (String.ofList name, c)

/-- Whether a tag starts with a handle, that is, holds a second exclamation mark. -/
def hasHandle (c : Cursor) : Bool :=
  (c.rest.drop 1 |>.takeWhile fun x => x ≠ ' ' && !isBreak x).contains '!'

/-- A tag handle with its exclamation marks. -/
def tagHandle (c : Cursor) : Option (String × Cursor) :=
  let (name, c) := c.advance.takeWhile isNameChar
  if c.sees '!' then some (String.ofList ('!' :: name ++ ['!']), c.advance)
  else if name.isEmpty then some ("!", c)
  else none

/-- A tag. -/
def tagToken (c : Cursor) : Option (Token × Cursor) := do
  let (token, c) ←
    if c.at? 1 = some '<' then do
      let (name, c) ← tagName (c.skip 2)
      if c.sees '>' then some (Token.tag none name, c.advance) else none
    else if endsWord (c.at? 1) then some (Token.tag none "!", c.advance)
    else if c.hasHandle then do
      let (handle, c) ← tagHandle c
      let (name, c) ← tagName c
      some (Token.tag (some handle) name, c)
    else do
      let (name, c) ← tagName c.advance
      some (Token.tag (some "!") name, c)
  if endsWord c.peek && c.peek ≠ some '\t' then some (token, c) else none

/-- A decimal number. -/
def number (c : Cursor) : Option (Nat × Cursor) := do
  let (digits, c) := c.takeWhile Char.isDigit
  if digits.isEmpty then none
  return (← Text.digitsValue? 10 digits, c)

/-- A directive and its line. -/
def directive (c : Cursor) : Option (Token × Cursor) := do
  let (name, c) := c.advance.takeWhile isNameChar
  if name.isEmpty || !(endsLine c.peek || c.sees ' ') then none
  let (token, c) ←
    match String.ofList name with
    | "YAML" => do
      let (major, c) ← number (c.skipWhile (· = ' '))
      if !c.sees '.' then none
      let (_, c) ← number c.advance
      some (Token.version major, c)
    | "TAG" => do
      let (handle, c) ← tagHandle (c.skipWhile (· = ' '))
      if !c.sees ' ' then none
      let (expansion, c) ← tagName (c.skipWhile (· = ' '))
      some (Token.tagHandle handle expansion, c)
    | _ => some (Token.otherDirective, c.skipWhile fun x => !isBreak x)
  if !(endsLine c.peek || c.sees ' ') then none
  let c ← c.finishLine?
  some (token, c)

end Cursor

end SchemaLink.Yaml
