/-!
The lines of a text. A line ends at a carriage return, at a line feed, or at a carriage return
followed by a line feed, which is one break; no other character ends a line.
-/
namespace TokenStream

namespace Lines

/-- The lines of a text without their breaks. The last line is the one that no break ends. -/
def split : List Char → List (List Char)
  | [] => [[]]
  | '\r' :: '\n' :: rest => [] :: split rest
  | '\r' :: rest => [] :: split rest
  | '\n' :: rest => [] :: split rest
  | c :: rest =>
    match split rest with
    | [] => [[c]]
    | line :: lines => (c :: line) :: lines

/-- The line that a text ends in, and where that line starts, when `read` characters were read
before the text and the line then was `line`, which starts at `start`. -/
def last (line start read : Nat) : List Char → Nat × Nat
  | [] => (line, start)
  | '\r' :: '\n' :: rest => last (line + 1) (read + 2) (read + 2) rest
  | '\r' :: rest => last (line + 1) (read + 1) (read + 1) rest
  | '\n' :: rest => last (line + 1) (read + 1) (read + 1) rest
  | _ :: rest => last line start (read + 1) rest

/-- Every break as one line feed. -/
def normalize : List Char → List Char
  | [] => []
  | '\r' :: '\n' :: rest => '\n' :: normalize rest
  | '\r' :: rest => '\n' :: normalize rest
  | c :: rest => c :: normalize rest

variable {rest : List Char} {line start read : Nat}

@[simp] theorem split_nil : split [] = [[]] := rfl

@[simp] theorem split_pair : split ('\r' :: '\n' :: rest) = [] :: split rest := rfl

@[simp] theorem split_newline : split ('\n' :: rest) = [] :: split rest := rfl

@[simp] theorem last_nil : last line start read [] = (line, start) := rfl

@[simp] theorem last_pair :
    last line start read ('\r' :: '\n' :: rest) =
      last (line + 1) (read + 2) (read + 2) rest := rfl

@[simp] theorem last_newline :
    last line start read ('\n' :: rest) = last (line + 1) (read + 1) (read + 1) rest := rfl

@[simp] theorem normalize_nil : normalize [] = [] := rfl

@[simp] theorem normalize_pair :
    normalize ('\r' :: '\n' :: rest) = '\n' :: normalize rest := rfl

end Lines

def splitLines (text : String) : List String := (Lines.split text.toList).map String.ofList

def normalizeBreaks (text : String) : String := String.ofList (Lines.normalize text.toList)

/-- A place in a text. Lines and columns count from one, offsets from zero. -/
structure Position where
  line : Nat
  column : Int
  offset : Int
deriving DecidableEq, Repr

/-- The position of an offset: only the breaks before it count, so that an offset between a
carriage return and its line feed is on the line that starts there. -/
def positionAt (text : String) (offset : Int) : Position :=
  let (line, start) := Lines.last 1 0 0 (text.toList.take offset.toNat)
  ⟨line, offset - start + 1, offset⟩

/-- Whether a number is in the range of offsets, which are words of 64 bits with a sign. -/
def isOffset (n : Int) : Bool := -Int.pow 2 63 ≤ n && n < Int.pow 2 63

/-- The position of a number that is in the range of offsets. -/
def positionAt? (text : String) (offset : Int) : Option Position :=
  if isOffset offset then some (positionAt text offset) else none

end TokenStream
