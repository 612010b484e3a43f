import TokenStream.Toml.Scalar

/-!
A reader of JSON. It knows all of the language, so that it takes documents of any layout, and no
text that is not a document.
-/
namespace TokenStream.Json

open Toml (Taken character? isHexDigit ofDigits oneOf? sign untouched word?)

/-- What a document may say. A number is an integer times a power of ten. -/
inductive Datum where
  | null
  | boolean (value : Bool)
  | number (significand exponent : Int)
  | string (value : String)
  | array (items : List Datum)
  | object (fields : List (String × Datum))

def blanks : List Char := [' ', '\t', '\n', '\r']

def skipBlanks (s : List Char) : List Char := s.dropWhile blanks.contains

/-- The characters that stand behind a backslash for one character. -/
def letters : List (Char × Char) :=
  [('"', '"'), ('\\', '\\'), ('/', '/'), ('b', '\u0008'), ('f', '\u000c'), ('n', '\n'),
    ('r', '\r'), ('t', '\t')]

variable {s : List Char}

theorem length_skipBlanks_le (s : List Char) : (skipBlanks s).length ≤ s.length :=
  Toml.length_dropWhile_le ..

theorem length_le_cons (c : Char) (s : List Char) : s.length ≤ (c :: s).length := Nat.le_succ _

/-- A number of four digits in base sixteen. -/
def code? : (s : List Char) → Option (Taken Nat s)
  | a :: b :: c :: d :: rest =>
    if [a, b, c, d].all isHexDigit then
      some ⟨ofDigits 16 [a, b, c, d], rest, by simp only [List.length_cons]; omega⟩
    else none
  | _ => none

/-- A character by its code point, or by the two surrogates that stand for it. -/
def coded? (s : List Char) : Option (Taken Char s) := do
  let code ← code? s
  if code.value.isValidChar then return code.map Char.ofNat
  else
    let mark ← word? ['\\', 'u'] code.rest
    let low ← code? mark.rest
    if code.value < 0xdc00 ∧ 0xdc00 ≤ low.value ∧ low.value < 0xe000 then
      let c := Char.ofNat (0x10000 + (code.value - 0xd800) * 0x400 + (low.value - 0xdc00))
      return ⟨c, low.rest, by
        have := low.shorter
        have := mark.shorter
        have := code.shorter
        omega⟩
    else none

/-- A character from behind the backslash that escapes it. -/
def escaped? : (s : List Char) → Option (Taken Char s)
  | [] => none
  | letter :: rest =>
    if letter = 'u' then (coded? rest).map (·.widen (length_le_cons letter rest))
    else (letters.lookup letter).map fun c => ⟨c, rest, Nat.lt_succ_self _⟩

/-- A string from behind its opening quotation mark. -/
def text? : (s : List Char) → Option (Taken (List Char) s)
  | [] => none
  | '"' :: rest => some ⟨[], rest, Nat.lt_succ_self _⟩
  | '\\' :: rest => do
    let first ← escaped? rest
    have := first.shorter
    let more ← text? first.rest
    return ⟨first.value :: more.value, more.rest, by
      have := more.shorter
      simp only [List.length_cons]
      omega⟩
  | c :: rest =>
    if c.toNat < 0x20 then none
    else do
      let more ← text? rest
      return (more.map (c :: ·)).widen (length_le_cons c rest)
termination_by s => s.length
decreasing_by all_goals simp only [List.length_cons]; omega

/-- At least one digit. -/
def run? : (s : List Char) → Option (Taken (List Char) s)
  | [] => none
  | c :: rest =>
    if c.isDigit then
      some ⟨c :: rest.takeWhile Char.isDigit, rest.dropWhile Char.isDigit,
        Nat.lt_succ_of_le (Toml.length_dropWhile_le ..)⟩
    else none

/-- The digits before the point. A zero in front stands alone. -/
def whole? : (s : List Char) → Option (Taken (List Char) s)
  | '0' :: rest => some ⟨['0'], rest, Nat.lt_succ_self _⟩
  | s => run? s

/-- The digits behind the point. There are some if there is a point. -/
def fraction? (s : List Char) : Option (List Char × { r : List Char // r.length ≤ s.length }) :=
  match character? '.' s with
  | none => some ([], untouched s)
  | some point => do
    let digits ← run? point.rest
    return (digits.value, ⟨digits.rest, by
      have := digits.shorter
      have := point.shorter
      omega⟩)

theorem length_exponent_le {mark : Taken Char s}
    {unsigned : { r : List Char // r.length ≤ mark.rest.length }}
    (digits : Taken (List Char) unsigned.val) : digits.rest.length ≤ s.length := by
  have := digits.shorter
  have := unsigned.property
  have := mark.shorter
  omega

/-- The power of ten that a number is multiplied by. -/
def exponent? (s : List Char) : Option (Int × { r : List Char // r.length ≤ s.length }) :=
  match oneOf? ['e', 'E'] s with
  | none => some (0, untouched s)
  | some mark => do
    let (negative, unsigned) := sign mark.rest
    let digits ← run? unsigned.val
    let size : Int := Nat.ofDigitChars 10 digits.value 0
    return (if negative then -size else size, ⟨digits.rest, length_exponent_le digits⟩)

/-- A number without a sign: its digits, and the power of ten that they are multiplied by. -/
def unsigned? (s : List Char) : Option (Taken (Nat × Int) s) := do
  let whole ← whole? s
  let (after, further) ← fraction? whole.rest
  let (power, rest) ← exponent? further.val
  return ⟨(Nat.ofDigitChars 10 (whole.value ++ after) 0, power - after.length), rest.val, by
    have := rest.property
    have := further.property
    have := whole.shorter
    omega⟩

def number? : (s : List Char) → Option (Taken Datum s)
  | '-' :: rest =>
    (unsigned? rest).map fun size =>
      (size.map fun (digits, power) => .number (-digits) power).widen (length_le_cons '-' rest)
  | s => (unsigned? s).map fun size => size.map fun (digits, power) => .number digits power

/-- The data that are words. -/
def words : List (String × Datum) :=
  [("null", .null), ("true", .boolean true), ("false", .boolean false)]

def named? (s : List Char) : Option (Taken Datum s) :=
  words.findSome? fun (word, datum) => (word? word.toList s).map (·.map fun _ => datum)

mutual

/-- What stands at the front of a text. -/
def datum? (s : List Char) : Option (Taken Datum s) :=
  match s with
  | '"' :: rest =>
    (text? rest).map fun text =>
      (text.map fun text => .string (.ofList text)).widen (length_le_cons '"' rest)
  | '[' :: rest => do
    have := length_skipBlanks_le rest
    match character? ']' (skipBlanks rest) with
    | some close => return ⟨.array [], close.rest, by have := close.shorter; simp; omega⟩
    | none =>
      let first ← datum? (skipBlanks rest)
      have := first.shorter
      let more ← items? first.rest
      return ⟨.array (first.value :: more.value), more.rest, by
        have := more.shorter
        simp only [List.length_cons]
        omega⟩
  | '{' :: rest => do
    have := length_skipBlanks_le rest
    match character? '}' (skipBlanks rest) with
    | some close => return ⟨.object [], close.rest, by have := close.shorter; simp; omega⟩
    | none =>
      let first ← field? (skipBlanks rest)
      have := first.shorter
      let more ← fields? first.rest
      return ⟨.object (first.value :: more.value), more.rest, by
        have := more.shorter
        simp only [List.length_cons]
        omega⟩
  | s => named? s <|> number? s
termination_by s.length
decreasing_by all_goals simp only [List.length_cons]; omega

/-- The items behind an item, and the bracket that closes the array. -/
def items? (s : List Char) : Option (Taken (List Datum) s) := do
  let mark ← oneOf? [',', ']'] (skipBlanks s)
  have := length_skipBlanks_le s
  have := mark.shorter
  if mark.value = ']' then return ⟨[], mark.rest, by omega⟩
  else
    have := length_skipBlanks_le mark.rest
    let next ← datum? (skipBlanks mark.rest)
    have := next.shorter
    let more ← items? next.rest
    return ⟨next.value :: more.value, more.rest, by have := more.shorter; omega⟩
termination_by s.length

/-- A name, a colon and what the name stands for. -/
def field? (s : List Char) : Option (Taken (String × Datum) s) := do
  let quote ← character? '"' s
  have := quote.shorter
  let name ← text? quote.rest
  have := name.shorter
  have := length_skipBlanks_le name.rest
  let colon ← character? ':' (skipBlanks name.rest)
  have := colon.shorter
  have := length_skipBlanks_le colon.rest
  let datum ← datum? (skipBlanks colon.rest)
  return ⟨(.ofList name.value, datum.value), datum.rest, by have := datum.shorter; omega⟩
termination_by s.length

/-- The fields behind a field, and the brace that closes the object. -/
def fields? (s : List Char) : Option (Taken (List (String × Datum)) s) := do
  let mark ← oneOf? [',', '}'] (skipBlanks s)
  have := length_skipBlanks_le s
  have := mark.shorter
  if mark.value = '}' then return ⟨[], mark.rest, by omega⟩
  else
    have := length_skipBlanks_le mark.rest
    let next ← field? (skipBlanks mark.rest)
    have := next.shorter
    let more ← fields? next.rest
    return ⟨next.value :: more.value, more.rest, by have := more.shorter; omega⟩
termination_by s.length

end

/-- What a document says, if the text is one. -/
def decode (text : String) : Option Datum := do
  let read ← datum? (skipBlanks text.toList)
  if skipBlanks read.rest = [] then return read.value else none

end TokenStream.Json
