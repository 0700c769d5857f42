import SchemaLink.Text.Utf8
import SchemaLink.Yaml.Document

/-!
# Configuration sources

A configuration document is kept in a file, whose bytes have to spell a text and whose text has to
be well-formed. A document may also be given as a datum. The file may be named directly or by the
settings, or not at all.
-/

namespace SchemaLink

/-- What is kept where a configuration document is looked for. -/
inductive Source where
  | missing
  | bytes (content : List UInt8)
  | text (content : List Char)
  | datum (content : Datum)

/-- Why a source holds no document. -/
inductive SourceError where
  | encoding (e : Text.DecodeError)
  | scalar (e : Yaml.ScalarError)
  deriving DecidableEq, Repr, Inhabited

/-- The message about a source without a document; a malformed document has none. -/
def SourceError.message : SourceError → String
  | .encoding e => e.message
  | .scalar .malformed => ""
  | .scalar (.calendar e) => e.message
  | .scalar (.noDigits base) => "invalid literal for int() with base " ++ toString base ++ ": ''"

namespace Source

/-- The document of a text. -/
def parse (content : List Char) : Except SourceError Datum :=
  (Yaml.parse (Text.unifyLines content)).mapError .scalar

/-- The document of a source, if there is one. -/
def read : Source → Except SourceError (Option Datum)
  | .missing => .ok none
  | .bytes content =>
    match Text.decode content with
    | .error e => .error (.encoding e)
    | .ok chars => (parse chars).map some
  | .text content => (parse content).map some
  | .datum content => .ok (some content)

end Source

/-- Who names the file of a configuration document. -/
inductive Namer where
  | caller
  | settings
  | nobody
  deriving DecidableEq, Repr, Inhabited

end SchemaLink
