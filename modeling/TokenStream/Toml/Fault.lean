import TokenStream.Toml.Value

/-! What can be wrong with a TOML document, and how it is told. -/
namespace TokenStream.Toml

/-- The parts of a dotted key. -/
abbrev Key := List String

/-- A key as it is shown in messages. -/
def Key.shown : Key → String
  | [part] => "(" ++ quoted part ++ ",)"
  | parts => "(" ++ ", ".intercalate (parts.map quoted) ++ ")"

inductive Cause where
  | invalidStatement
  | keyStart
  | equalsMissing
  | invalidValue
  | newlineMissing
  | tableEndMissing
  | tableArrayEndMissing
  | arrayUnclosed
  | inlineTableUnclosed
  /-- A table whose key was declared before. -/
  | declaredTwice (key : Key)
  /-- A dotted key through a table that was declared on its own. -/
  | redefined (key : Key)
  /-- A key in an array or a table that is complete. -/
  | immutable (key : Key)
  | overwritten
  | duplicateKey (part : String)
  | unterminatedString
  /-- A literal string without its end. -/
  | delimiterMissing (delimiter : String)
  | illegalCharacter (c : Char)
  | foundInvalid (c : Char)
  | badEscape
  | badHexadecimal
  | notScalar
  | invalidDate
  /-- An integer of so many decimal digits. -/
  | tooManyDigits (count : Nat)
deriving DecidableEq, Repr

def Cause.message : Cause → String
  | invalidStatement => "Invalid statement"
  | keyStart => "Invalid initial character for a key part"
  | equalsMissing => "Expected '=' after a key in a key/value pair"
  | invalidValue => "Invalid value"
  | newlineMissing => "Expected newline or end of document after a statement"
  | tableEndMissing => "Expected ']' at the end of a table declaration"
  | tableArrayEndMissing => "Expected ']]' at the end of an array declaration"
  | arrayUnclosed => "Unclosed array"
  | inlineTableUnclosed => "Unclosed inline table"
  | declaredTwice key => s!"Cannot declare {key.shown} twice"
  | redefined key => s!"Cannot redefine namespace {key.shown}"
  | immutable key => s!"Cannot mutate immutable namespace {key.shown}"
  | overwritten => "Cannot overwrite a value"
  | duplicateKey part => s!"Duplicate inline table key {quoted part}"
  | unterminatedString => "Unterminated string"
  | delimiterMissing delimiter => s!"Expected {quoted delimiter}"
  | illegalCharacter c => s!"Illegal character {quoted (String.singleton c)}"
  | foundInvalid c => s!"Found invalid character {quoted (String.singleton c)}"
  | badEscape => "Unescaped '\\' in a string"
  | badHexadecimal => "Invalid hex value"
  | notScalar => "Escaped character is not a Unicode scalar value"
  | invalidDate => "Invalid date or datetime"
  | tooManyDigits count => maxDigitsMessage (some count)

/-- A cause, and what is left of the document where it shows. -/
structure Fault where
  cause : Cause
  rest : List Char

/-- The place in a document before the rest of it, for a reader. -/
def place (document rest : List Char) : String :=
  match rest with
  | [] => "end of document"
  | _ =>
    let before := document.take (document.length - rest.length)
    let line := before.count '\n' + 1
    let column := (before.reverse.takeWhile (· != '\n')).length + 1
    s!"line {line}, column {column}"

/-- Why a document is not read. -/
inductive ReadError where
  | malformed (message : String)
  /-- The document may be well formed, but holds an integer of too many digits. -/
  | tooManyDigits (count : Nat)

/-- The error that a fault of a document is. -/
def Fault.toReadError (fault : Fault) (document : List Char) : ReadError :=
  match fault.cause with
  | .tooManyDigits count => .tooManyDigits count
  | cause => .malformed s!"{cause.message} (at {place document fault.rest})"

end TokenStream.Toml
