import TokenStream.Toml.Taken

/-! Numbers, dates and times at the front of a text. -/
namespace TokenStream.Toml

variable {s : List Char}

def character? (c : Char) : (s : List Char) → Option (Taken Unit s)
  | [] => none
  | d :: rest => if d = c then some ⟨(), rest, by simp⟩ else none

/-- One of some characters. -/
def oneOf? (cs : List Char) : (s : List Char) → Option (Taken Char s)
  | [] => none
  | d :: rest => if cs.contains d then some ⟨d, rest, by simp⟩ else none

/-! ## Runs of digits -/

def digitValue (c : Char) : Nat :=
  if c.isDigit then c.toNat - '0'.toNat
  else if c.isUpper then c.toNat - 'A'.toNat + 10
  else c.toNat - 'a'.toNat + 10

/-- The number that digits write in a base. -/
def ofDigits (base : Nat) (digits : List Char) : Nat :=
  digits.foldl (fun n c => n * base + digitValue c) 0

def isBinaryDigit (c : Char) : Bool := c = '0' || c = '1'

def isOctalDigit (c : Char) : Bool := '0' ≤ c && c ≤ '7'

def isHexDigit (c : Char) : Bool := c.isDigit || ('a' ≤ c && c ≤ 'f') || ('A' ≤ c && c ≤ 'F')

/-- Digits, between two of which an underscore may stand, and the rest. -/
def moreDigits (p : Char → Bool) : List Char → List Char × List Char
  | '_' :: c :: rest =>
    if p c then
      let (digits, rest) := moreDigits p rest
      (c :: digits, rest)
    else ([], '_' :: c :: rest)
  | c :: rest =>
    if p c then
      let (digits, rest) := moreDigits p rest
      (c :: digits, rest)
    else ([], c :: rest)
  | [] => ([], [])

theorem length_moreDigits_le (p : Char → Bool) (s : List Char) :
    (moreDigits p s).2.length ≤ s.length := by
  fun_induction moreDigits p s <;> simp_all <;> omega

/-- A run of at least one digit. -/
def digits? (p : Char → Bool) : (s : List Char) → Option (Taken (List Char) s)
  | [] => none
  | c :: rest =>
    if p c then
      some ⟨c :: (moreDigits p rest).1, (moreDigits p rest).2,
        Nat.lt_succ_of_le (length_moreDigits_le p rest)⟩
    else none

/-- The number that exactly `count` decimal digits write, if it is in bounds. -/
def number? (count low high : Nat) (s : List Char) : Option (Taken Nat s) :=
  let digits := s.take count
  let n := ofDigits 10 digits
  if h : 0 < count ∧ count ≤ s.length then
    if digits.all Char.isDigit && low ≤ n && n ≤ high then
      some ⟨n, s.drop count, by rw [List.length_drop]; omega⟩
    else none
  else none

/-! ## Dates and times -/

/-- The digits after a point that count, as microseconds: six at most. -/
def microseconds (digits : List Char) : Nat :=
  let counted := digits.take 6
  ofDigits 10 (counted ++ List.replicate (6 - counted.length) '0')

/-- The fraction of a second, if there is one. -/
def fraction (s : List Char) : Nat × { r : List Char // r.length ≤ s.length } :=
  match s with
  | '.' :: c :: rest =>
    if c.isDigit then
      (microseconds (c :: rest.takeWhile Char.isDigit),
        ⟨rest.dropWhile Char.isDigit, by
          have := length_dropWhile_le Char.isDigit rest
          simp only [List.length_cons]
          omega⟩)
    else (0, untouched ('.' :: c :: rest))
  | s => (0, untouched s)

def time? (s : List Char) : Option (Taken Time s) := do
  let hour ← number? 2 0 23 s
  let colon ← character? ':' hour.rest
  let minute ← number? 2 0 59 colon.rest
  let colon' ← character? ':' minute.rest
  let second ← number? 2 0 59 colon'.rest
  let (microsecond, rest) := fraction second.rest
  return ⟨⟨hour.value, minute.value, second.value, microsecond⟩, rest.val, by
    have := rest.property
    have := second.shorter
    have := colon'.shorter
    have := minute.shorter
    have := colon.shorter
    have := hour.shorter
    omega⟩

/-- A date by its digits, which need not be in the calendar. -/
def date? (s : List Char) : Option (Taken Date s) := do
  let year ← number? 4 0 9999 s
  let hyphen ← character? '-' year.rest
  let month ← number? 2 1 12 hyphen.rest
  let hyphen' ← character? '-' month.rest
  let day ← number? 2 1 31 hyphen'.rest
  return ⟨⟨year.value, month.value, day.value⟩, day.rest, by
    have := day.shorter
    have := hyphen'.shorter
    have := month.shorter
    have := hyphen.shorter
    have := year.shorter
    omega⟩

def clockOffset? (s : List Char) : Option (Taken ClockOffset s) :=
  match oneOf? ['Z', 'z'] s with
  | some zulu => some (zulu.map fun _ => ⟨0⟩)
  | none => do
    let sign ← oneOf? ['+', '-'] s
    let hour ← number? 2 0 23 sign.rest
    let colon ← character? ':' hour.rest
    let minute ← number? 2 0 59 colon.rest
    let minutes : Int := 60 * hour.value + minute.value
    return ⟨⟨if sign.value = '-' then -minutes else minutes⟩, minute.rest, by
      have := minute.shorter
      have := colon.shorter
      have := hour.shorter
      have := sign.shorter
      omega⟩

/-- A time after a date, with its offset. -/
def clock? (s : List Char) : Option (Taken (Time × Option ClockOffset) s) := do
  let separator ← oneOf? ['T', 't', ' '] s
  let time ← time? separator.rest
  have := separator.shorter
  match clockOffset? time.rest with
  | some offset =>
    return ⟨(time.value, some offset.value), offset.rest, by
      have := offset.shorter
      have := time.shorter
      omega⟩
  | none => return ⟨(time.value, none), time.rest, by have := time.shorter; omega⟩

/-- A date, with or without a time, at the front of a text. It must be in the calendar. -/
def moment? (s : List Char) : Option (Reading Value s) := do
  let date ← date? s
  if date.value.isValid then
    match clock? date.rest with
    | some clock =>
      return .ok ⟨.dateTime date.value clock.value.1 clock.value.2, clock.rest, by
        have := clock.shorter
        have := date.shorter
        omega⟩
    | none => return .ok (date.map .date)
  else return .error ⟨.invalidDate, s⟩

/-! ## Numbers -/

/-- A number in base sixteen, eight or two. -/
def based? : (s : List Char) → Option (Taken Value s)
  | '0' :: letter :: rest => do
    let (base, p) ←
      if letter = 'x' then some (16, isHexDigit)
      else if letter = 'o' then some (8, isOctalDigit)
      else if letter = 'b' then some (2, isBinaryDigit)
      else none
    let digits ← digits? p rest
    return (digits.map fun digits => .integer (ofDigits base digits)).widen (by simp; omega)
  | _ => none

/-- The rest after a sign, if there is one, and whether it is a minus. -/
def sign (s : List Char) : Bool × { r : List Char // r.length ≤ s.length } :=
  match s with
  | '-' :: rest => (true, ⟨rest, by simp⟩)
  | '+' :: rest => (false, ⟨rest, by simp⟩)
  | s => (false, untouched s)

/-- The digits before the point. A zero in front stands alone. -/
def wholeDigits? : (s : List Char) → Option (Taken (List Char) s)
  | [] => none
  | c :: rest => if c = '0' then some ⟨['0'], rest, by simp⟩ else digits? Char.isDigit (c :: rest)

/-- The digits after the point, if there are any. -/
def fractionDigits (s : List Char) :
    Option (List Char) × { r : List Char // r.length ≤ s.length } :=
  match s with
  | '.' :: rest =>
    match digits? Char.isDigit rest with
    | some digits => (some digits.value, ⟨digits.rest, by have := digits.shorter; simp; omega⟩)
    | none => (none, untouched ('.' :: rest))
  | s => (none, untouched s)

/-- The exponent, if there is one. -/
def exponent (s : List Char) : Option Int × { r : List Char // r.length ≤ s.length } :=
  match oneOf? ['e', 'E'] s with
  | some mark =>
    let (negative, unsigned) := sign mark.rest
    match digits? Char.isDigit unsigned.val with
    | some digits =>
      let size : Int := ofDigits 10 digits.value
      (some (if negative then -size else size), ⟨digits.rest, by
        have := digits.shorter
        have := unsigned.property
        have := mark.shorter
        omega⟩)
    | none => (none, untouched s)
  | none => (none, untouched s)

/-- The integer that digits write, if they are not too many. -/
def integer (negative : Bool) (digits : List Char) : Except Cause Value :=
  if maxDigits < digits.length then .error (.tooManyDigits digits.length)
  else
    let size : Int := ofDigits 10 digits
    .ok (.integer (if negative then -size else size))

/-- A decimal number: one with a fraction or an exponent is a floating-point number. -/
def decimal? (s : List Char) : Option (Reading Value s) := do
  let (negative, unsigned) := sign s
  let whole ← wholeDigits? unsigned.val
  let (fractional, afterFraction) := fractionDigits whole.rest
  let (power, rest) := exponent afterFraction.val
  let number : Except Cause Value :=
    match fractional, power with
    | none, none => integer negative whole.value
    | _, _ =>
      let after := fractional.getD []
      .ok (.float (.ofDecimal negative (ofDigits 10 (whole.value ++ after))
        (power.getD 0 - after.length)))
  match number with
  | .error cause => return .error ⟨cause, s⟩
  | .ok value =>
    return .ok ⟨value, rest.val, by
      have := rest.property
      have := afterFraction.property
      have := whole.shorter
      have := unsigned.property
      omega⟩

/-- A text that stands for itself at the front of another. -/
def word? (word : List Char) (s : List Char) : Option (Taken Unit s) :=
  if h : word.length ≤ s.length ∧ 0 < word.length then
    if word.isPrefixOf s then some ⟨(), s.drop word.length, by rw [List.length_drop]; omega⟩
    else none
  else none

/-- The numbers that are written as words. -/
def specialFloats : List (String × Binary64) :=
  [("inf", .infinite false), ("nan", .nan), ("-inf", .infinite true), ("+inf", .infinite false),
    ("-nan", .nan), ("+nan", .nan)]

def specialFloat? (s : List Char) : Option (Taken Value s) :=
  specialFloats.findSome? fun (name, value) =>
    (word? name.toList s).map (·.map fun _ => .float value)

/-- A date, a time or a number, if the text begins with one. -/
def scalar? (s : List Char) : Option (Reading Value s) :=
  moment? s <|> (time? s).map (.ok <| ·.map .time) <|> (based? s).map .ok <|> decimal? s <|>
    (specialFloat? s).map .ok

end TokenStream.Toml
