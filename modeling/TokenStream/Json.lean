/-!
JSON documents, written with two spaces of indentation a level. Of the characters in a string only
the quotation mark, the backslash and those below the space are escaped.
-/
namespace TokenStream

inductive Json where
  | number (value : Int)
  | string (value : String)
  | array (items : List Json)
  | object (fields : List (String × Json))

namespace Json

/-- The lower-case digit of a number below sixteen. -/
def hexDigit (n : Nat) : Char := n.digitChar

def escape (c : Char) : List Char :=
  if c = '"' then ['\\', '"']
  else if c = '\\' then ['\\', '\\']
  else if c = '\n' then ['\\', 'n']
  else if c = '\r' then ['\\', 'r']
  else if c = '\t' then ['\\', 't']
  else if c = '\u0008' then ['\\', 'b']
  else if c = '\u000c' then ['\\', 'f']
  else if c.toNat < 0x20 then
    ['\\', 'u', '0', '0', hexDigit (c.toNat / 16), hexDigit (c.toNat % 16)]
  else [c]

def writeString (value : String) : List Char :=
  '"' :: (value.toList.flatMap escape ++ ['"'])

/-- A line break and the indentation of a level. -/
def newline (level : Nat) : List Char := '\n' :: List.replicate (2 * level) ' '

def writeKey (key : String) : List Char := writeString key ++ [':', ' ']

mutual

def write (level : Nat) : Json → List Char
  | .number value => (toString value).toList
  | .string value => writeString value
  | .array [] => ['[', ']']
  | .array (item :: items) =>
    '[' :: (newline (level + 1) ++ (write (level + 1) item ++
      (writeItems (level + 1) items ++ (newline level ++ [']']))))
  | .object [] => ['{', '}']
  | .object ((key, value) :: fields) =>
    '{' :: (newline (level + 1) ++ (writeKey key ++ (write (level + 1) value ++
      (writeFields (level + 1) fields ++ (newline level ++ ['}'])))))

/-- The items after the first one. -/
def writeItems (level : Nat) : List Json → List Char
  | [] => []
  | item :: items => ',' :: (newline level ++ (write level item ++ writeItems level items))

/-- The fields after the first one. -/
def writeFields (level : Nat) : List (String × Json) → List Char
  | [] => []
  | (key, value) :: fields =>
    ',' :: (newline level ++ (writeKey key ++ (write level value ++ writeFields level fields)))

end

def render (document : Json) : String := String.ofList (write 0 document)

end Json
end TokenStream
