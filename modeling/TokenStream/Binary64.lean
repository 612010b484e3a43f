/-!
Binary floating-point numbers of 64 bits: the one nearest to a decimal, and the shortest decimal
that is read as a given one.
-/
namespace TokenStream

/-- A number of 53 significant bits. A finite one has the size `mantissa * 2 ^ exponent`, where the
exponent is as small as the mantissa allows, but never below `-1074`. -/
inductive Binary64 where
  | nan
  | infinite (negative : Bool)
  | finite (negative : Bool) (mantissa : Nat) (exponent : Int)
deriving DecidableEq, Repr

namespace Binary64

/-- The quotient rounded to the nearest natural number, a half to the even one. -/
def roundDiv (num den : Nat) : Nat :=
  let quotient := num / den
  let twice := 2 * (num % den)
  if den < twice ∨ (den = twice ∧ quotient % 2 = 1) then quotient + 1 else quotient

/-- Two to the positive, and to the negative, part of an exponent. -/
def powers (base : Nat) (exponent : Int) : Nat × Nat :=
  (base.pow exponent.toNat, base.pow (-exponent).toNat)

/-- The number nearest to a positive quotient. -/
def ofQuotient (negative : Bool) (num den : Nat) : Binary64 :=
  let scaled (exponent : Int) : Nat × Nat :=
    let (up, down) := powers 2 exponent
    (num * down, den * up)
  let low : Int := num.log2 - den.log2 - 53
  let (n, d) := scaled low
  let exponent := max (if n / d < Nat.pow 2 53 then low else low + 1) (-1074)
  let (n, d) := scaled exponent
  let rounded := roundDiv n d
  let (mantissa, exponent) :=
    if rounded = Nat.pow 2 53 then (Nat.pow 2 52, exponent + 1) else (rounded, exponent)
  if 971 < exponent then infinite negative else finite negative mantissa exponent

/-- The number nearest to `digits * 10 ^ power`. -/
def ofDecimal (negative : Bool) (digits : Nat) (power : Int) : Binary64 :=
  let size : Int := (Nat.toDigits 10 digits).length + power
  if digits = 0 ∨ size < -400 then finite negative 0 (-1074)
  else if 400 < size then infinite negative
  else
    let (up, down) := powers 10 power
    ofQuotient negative (digits * up) down

/-- A multiple of `10 ^ power` that is read as `mantissa * 2 ^ exponent`: of the multiples on either
side the nearer, of two equally near the even one. -/
def decimalAt? (mantissa : Nat) (exponent power : Int) : Option Nat :=
  let (up2, down2) := powers 2 (exponent - 2)
  let (up10, down10) := powers 10 power
  -- the multiple `c` and `x * 2 ^ (exponent - 2)` compare as `c * unit` and `x * scale`
  let unit := up10 * down2
  let scale := up2 * down10
  let least := if mantissa = Nat.pow 2 52 ∧ -1074 < exponent then 4 * mantissa - 1
    else 4 * mantissa - 2
  let most := 4 * mantissa + 2
  let value := 4 * mantissa * scale
  let isWithin (c : Nat) : Bool :=
    if mantissa % 2 = 0 then least * scale ≤ c * unit && c * unit ≤ most * scale
    else least * scale < c * unit && c * unit < most * scale
  let below := value / unit
  let above := below + 1
  let sum := (below + above) * unit
  if 0 < below && isWithin below then
    if isWithin above && (sum < 2 * value || (sum == 2 * value && below % 2 == 1)) then some above
    else some below
  else if isWithin above then some above
  else none

/-- The decimal of the fewest digits that is read as `mantissa * 2 ^ exponent`, as digits and a
power of ten. It lies on the coarsest decimal grid that has a point near enough. -/
def shortest (mantissa : Nat) (exponent : Int) : Nat × Int :=
  let found := (List.range 640).findSome? fun (n : Nat) =>
    let power : Int := 309 - n
    (decimalAt? mantissa exponent power).map (·, power)
  found.getD (0, 0)

/-- Digits with the point after the first `point` of them. Between `0.0001` and `10 ^ 16` the number
is written in full, else with an exponent. -/
def layout (digits : List Char) (point : Int) : List Char :=
  let zeros (n : Int) : List Char := List.replicate n.toNat '0'
  if -4 < point ∧ point ≤ 16 then
    if point ≤ 0 then ['0', '.'] ++ zeros (-point) ++ digits
    else
      let fraction := digits.drop point.toNat
      digits.take point.toNat ++ zeros (point - digits.length) ++ ['.'] ++
        (if fraction = [] then ['0'] else fraction)
  else
    let power := point - 1
    let powerDigits := (toString power.natAbs).toList
    digits.take 1 ++ (if digits.length ≤ 1 then [] else '.' :: digits.drop 1) ++
      ['e', if power < 0 then '-' else '+'] ++ zeros (2 - powerDigits.length) ++ powerDigits

/-- The shortest text that is read as the number. -/
def render : Binary64 → String
  | nan => "nan"
  | infinite negative => (if negative then "-" else "") ++ "inf"
  | finite negative mantissa exponent =>
    let sign := if negative then "-" else ""
    if mantissa = 0 then sign ++ "0.0"
    else
      let (number, power) := shortest mantissa exponent
      let digits := (toString number).toList
      sign ++ String.ofList (layout digits (power + digits.length))

end Binary64
end TokenStream
