import TokenStream.CharSet.Unprintable

/-!
Quoted texts: between two quotation marks stand the characters of the text, the mark, the backslash
and what cannot be printed being escaped.
-/
namespace TokenStream

namespace Quoted

/-- A text is put between apostrophes, unless it holds an apostrophe and no double quote. -/
def mark (text : List Char) : Char :=
  if text.contains '\'' && !text.contains '"' then '"' else '\''

/-- The last `width` digits of `n` in base sixteen. -/
def hexDigits : (width n : Nat) → List Char
  | 0, _ => []
  | width + 1, n => hexDigits width (n / 16) ++ [(n % 16).digitChar]

/-- The escape of a character that cannot be printed, by its code point. -/
def codeEscape (n : Nat) : List Char :=
  if n < 0x100 then '\\' :: 'x' :: hexDigits 2 n
  else if n < 0x10000 then '\\' :: 'u' :: hexDigits 4 n
  else '\\' :: 'U' :: hexDigits 8 n

/-- The written form of one character between two marks. -/
def escape (mark c : Char) : List Char :=
  if c = mark ∨ c = '\\' then ['\\', c]
  else if c = '\n' then ['\\', 'n']
  else if c = '\r' then ['\\', 'r']
  else if c = '\t' then ['\\', 't']
  else if CharSet.unprintable.contains c then codeEscape c.toNat
  else [c]

def encode (text : List Char) : List Char :=
  mark text :: (text.flatMap (escape (mark text)) ++ [mark text])

end Quoted

/-- The text between quotation marks. -/
def quoted (text : String) : String := String.ofList (Quoted.encode text.toList)

end TokenStream
