import SchemaLink.Text.Cut

/-!
# Characters in bytes

A character takes one to four bytes. The first one tells how many follow and within which limits the
second one lies, so that no character has two spellings and no surrogate has any. Bytes that spell
no character are reported with their position; what is cut off by the end of the text is reported as
if it stood alone.
-/

namespace SchemaLink.Text

/-- Why bytes spell no text. -/
inductive DecodeReason where
  | invalidStart
  | invalidContinuation
  | unexpectedEnd
  deriving DecidableEq, Repr, Inhabited

/-- The first byte that spells no character, how many bytes belong to it, and why. -/
structure DecodeError where
  byte : UInt8
  position : Nat
  length : Nat
  reason : DecodeReason
  deriving DecidableEq, Repr, Inhabited

/-- The reason in words. -/
def DecodeReason.text : DecodeReason → String
  | .invalidStart => "invalid start byte"
  | .invalidContinuation => "invalid continuation byte"
  | .unexpectedEnd => "unexpected end of data"

/-- The message about bytes that spell no text. -/
def DecodeError.message (e : DecodeError) : String :=
  let place :=
    if e.length = 1 then
      "byte 0x" ++ String.ofList (hexDigits 2 e.byte.toNat)
        ++ " in position " ++ toString e.position
    else
      "bytes in position " ++ toString e.position ++ "-" ++ toString (e.position + e.length - 1)
  "'utf-8' codec can't decode " ++ place ++ ": " ++ e.reason.text

/-- What the first byte of a character says about the others. -/
structure Lead where
  /-- The bits that it adds to the character. -/
  bits : Nat
  /-- How many bytes follow. -/
  tail : Nat
  /-- The limits of the second byte. -/
  low : UInt8
  high : UInt8

/-- The first byte of a character. -/
def lead? (b : UInt8) : Option Lead :=
  if b < 0x80 then some ⟨b.toNat, 0, 0x80, 0xbf⟩
  else if b < 0xc2 then none
  else if b < 0xe0 then some ⟨b.toNat - 0xc0, 1, 0x80, 0xbf⟩
  else if b < 0xf0 then
    some ⟨b.toNat - 0xe0, 2, if b = 0xe0 then 0xa0 else 0x80, if b = 0xed then 0x9f else 0xbf⟩
  else if b < 0xf5 then
    some ⟨b.toNat - 0xf0, 3, if b = 0xf0 then 0x90 else 0x80, if b = 0xf4 then 0x8f else 0xbf⟩
  else none

/-- The bytes that continue a character, as many as are expected and present. -/
def continuation (low high : UInt8) : Nat → List UInt8 → List UInt8
  | n + 1, b :: rest =>
    if low ≤ b ∧ b ≤ high then b :: continuation 0x80 0xbf n rest else []
  | _, _ => []

/-- Whether two last bytes are the start of a surrogate, which is cut off like any character. -/
def isCutSurrogate (b : UInt8) (rest : List UInt8) : Bool :=
  b = 0xed && rest.length = 1 && rest.all fun c => 0xa0 ≤ c && c ≤ 0xbf

/-- The characters of bytes from a position on. The bytes of the current character that are known
already are skipped. -/
def decodeFrom : Nat → Nat → List UInt8 → Except DecodeError (List Char)
  | _, _, [] => .ok []
  | skip + 1, position, _ :: rest => decodeFrom skip (position + 1) rest
  | 0, position, b :: rest =>
    match lead? b with
    | none => .error ⟨b, position, 1, .invalidStart⟩
    | some lead =>
      let tail := continuation lead.low lead.high lead.tail rest
      if tail.length = lead.tail then
        let code := tail.foldl (fun n c => n * 64 + (c.toNat - 0x80)) lead.bits
        (decodeFrom lead.tail (position + 1) rest).map (Char.ofNat code :: ·)
      else if tail.length = rest.length then
        .error ⟨b, 0, tail.length + 1, .unexpectedEnd⟩
      else
        .error ⟨b, if isCutSurrogate b rest then 0 else position, tail.length + 1,
          .invalidContinuation⟩

/-- The text that bytes spell. -/
def decode (bytes : List UInt8) : Except DecodeError (List Char) := decodeFrom 0 0 bytes

/-- Text in which every line ends with a line feed alone. -/
def unifyLines : List Char → List Char
  | '\r' :: '\n' :: rest => '\n' :: unifyLines rest
  | '\r' :: rest => '\n' :: unifyLines rest
  | c :: rest => c :: unifyLines rest
  | [] => []

end SchemaLink.Text
