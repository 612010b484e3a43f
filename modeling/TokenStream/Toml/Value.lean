import TokenStream.Binary64
import TokenStream.Text.Quoted

/-! The values of a TOML document, and the texts that show them. -/
namespace TokenStream.Toml

structure Date where
  year : Nat
  month : Nat
  day : Nat
deriving DecidableEq, Repr

structure Time where
  hour : Nat
  minute : Nat
  second : Nat
  microsecond : Nat
deriving DecidableEq, Repr

/-- The distance of a clock from universal time. -/
structure ClockOffset where
  minutes : Int
deriving DecidableEq, Repr

inductive Value where
  | string (value : String)
  | integer (value : Int)
  | float (value : Binary64)
  | boolean (value : Bool)
  | date (date : Date)
  | time (time : Time)
  | dateTime (date : Date) (time : Time) (offset : Option ClockOffset)
  | array (items : List Value)
  /-- A table lists its keys in the order in which they were defined. -/
  | table (fields : List (String × Value))

abbrev Table := List (String × Value)

/-- A number with zeros in front up to a width. -/
def padded (width n : Nat) : String :=
  let digits := toString n
  String.ofList (List.replicate (width - digits.length) '0') ++ digits

namespace Date

def isLeap (year : Nat) : Bool := year % 4 = 0 && (year % 100 != 0 || year % 400 = 0)

def daysIn (year month : Nat) : Nat :=
  if month = 2 then if isLeap year then 29 else 28
  else if month = 4 ∨ month = 6 ∨ month = 9 ∨ month = 11 then 30
  else 31

/-- Whether the calendar has the date. Years count from one. -/
def isValid (d : Date) : Bool :=
  1 ≤ d.year && 1 ≤ d.month && d.month ≤ 12 && 1 ≤ d.day && d.day ≤ daysIn d.year d.month

def text (d : Date) : String := s!"{padded 4 d.year}-{padded 2 d.month}-{padded 2 d.day}"

def fields (d : Date) : List Nat := [d.year, d.month, d.day]

end Date

namespace Time

def text (t : Time) : String :=
  s!"{padded 2 t.hour}:{padded 2 t.minute}:{padded 2 t.second}" ++
    (if t.microsecond = 0 then "" else "." ++ padded 6 t.microsecond)

/-- The fields of a time, less the seconds and microseconds that are zero at its end. -/
def fields (t : Time) : List Nat :=
  [t.hour, t.minute] ++
    (if t.microsecond ≠ 0 then [t.second, t.microsecond]
      else if t.second ≠ 0 then [t.second] else [])

end Time

namespace ClockOffset

def text (o : ClockOffset) : String :=
  let sign := if o.minutes < 0 then "-" else "+"
  s!"{sign}{padded 2 (o.minutes.natAbs / 60)}:{padded 2 (o.minutes.natAbs % 60)}"

/-- An offset in days and seconds, of which the seconds are not negative. -/
def shown (o : ClockOffset) : String :=
  if o.minutes = 0 then "datetime.timezone.utc"
  else if o.minutes < 0 then
    s!"datetime.timezone(datetime.timedelta(days=-1, seconds={86400 + 60 * o.minutes}))"
  else s!"datetime.timezone(datetime.timedelta(seconds={60 * o.minutes}))"

end ClockOffset

def commaSeparated (texts : List String) : String := ", ".intercalate texts

/-- Integers of more decimal digits are neither read in base ten nor shown. -/
def maxDigits : Nat := 4300

/-- The message about an integer of too many digits, whose number is known when it is read. -/
def maxDigitsMessage (count : Option Nat) : String :=
  s!"Exceeds the limit ({maxDigits} digits) for integer string conversion" ++
    (match count with | some n => s!": value has {n} digits" | none => "") ++
    "; use sys.set_int_max_str_digits() to increase the limit"

namespace Value

mutual

/-- Whether no integer in a value has too many digits to be shown. -/
def isShowable : Value → Bool
  | .integer value => value.natAbs < 10 ^ maxDigits
  | .array items => areShowable items
  | .table fields => fieldsAreShowable fields
  | _ => true

def areShowable : List Value → Bool
  | [] => true
  | item :: items => item.isShowable && areShowable items

def fieldsAreShowable : List (String × Value) → Bool
  | [] => true
  | (_, value) :: fields => value.isShowable && fieldsAreShowable fields

end

mutual

/-- A value as it is shown inside an array or a table. -/
def shown : Value → String
  | .string value => quoted value
  | .integer value => toString value
  | .float value => value.render
  | .boolean value => if value then "True" else "False"
  | .date d => s!"datetime.date({commaSeparated (d.fields.map toString)})"
  | .time t => s!"datetime.time({commaSeparated (t.fields.map toString)})"
  | .dateTime d t none =>
    s!"datetime.datetime({commaSeparated ((d.fields ++ t.fields).map toString)})"
  | .dateTime d t (some o) =>
    s!"datetime.datetime({commaSeparated ((d.fields ++ t.fields).map toString)}, " ++
      s!"tzinfo={o.shown})"
  | .array items => s!"[{commaSeparated (shownItems items)}]"
  | .table fields => "\x7b" ++ commaSeparated (shownFields fields) ++ "\x7d"

def shownItems : List Value → List String
  | [] => []
  | item :: items => item.shown :: shownItems items

def shownFields : List (String × Value) → List String
  | [] => []
  | (key, value) :: fields => s!"{quoted key}: {value.shown}" :: shownFields fields

end

/-- A value as a text of its own. -/
def text : Value → String
  | .string value => value
  | .date d => d.text
  | .time t => t.text
  | .dateTime d t offset =>
    s!"{d.text} {t.text}" ++ (match offset with | some o => o.text | none => "")
  | value => value.shown

end Value
end TokenStream.Toml
