import TokenStream.Toml.Fault

/-!
What a reader takes from the front of a text: a value and the rest of the text, which is shorter.
Readers that can go on with any text return an `Option`, the others the fault that they met.
-/
namespace TokenStream.Toml

structure Taken (α : Type) (s : List Char) where
  value : α
  rest : List Char
  shorter : rest.length < s.length

abbrev Reading (α : Type) (s : List Char) := Except Fault (Taken α s)

variable {α β : Type} {s t : List Char} {c : Char}

namespace Taken

def map (f : α → β) (x : Taken α s) : Taken β s := ⟨f x.value, x.rest, x.shorter⟩

/-- What was taken from the end of a text was taken from all of it. -/
def widen (x : Taken α t) (h : t.length ≤ s.length) : Taken α s :=
  ⟨x.value, x.rest, Nat.lt_of_lt_of_le x.shorter h⟩

end Taken

def isBlank (c : Char) : Bool := c = ' ' || c = '\t'

def isBlankOrBreak (c : Char) : Bool := isBlank c || c = '\n'

def skipBlanks (s : List Char) : List Char := s.dropWhile isBlank

theorem length_dropWhile_le (p : Char → Bool) (s : List Char) :
    (s.dropWhile p).length ≤ s.length :=
  (List.dropWhile_suffix p).length_le

theorem length_skipBlanks_le (s : List Char) : (skipBlanks s).length ≤ s.length :=
  length_dropWhile_le ..

theorem length_lt_of_cons {rest : List Char} (h : t = c :: rest) (hs : t.length ≤ s.length) :
    rest.length < s.length := by
  rw [h, List.length_cons] at hs
  exact hs

/-- Nothing is taken. -/
def untouched (s : List Char) : { r : List Char // r.length ≤ s.length } := ⟨s, Nat.le_refl _⟩

/-- What was taken, and the blanks after it. -/
def Taken.skipBlanks (x : Taken α s) : Taken α s :=
  ⟨x.value, Toml.skipBlanks x.rest, Nat.lt_of_le_of_lt (length_skipBlanks_le _) x.shorter⟩

/-- Control characters. -/
def isControl (c : Char) : Bool := c.toNat < 0x20 || c.toNat = 0x7f

/-- Characters that stand neither in a comment nor in a string on one line. -/
def isIllegal (c : Char) : Bool := isControl c && c != '\t'

/-- Characters that stand in no string at all. -/
def isIllegalInLines (c : Char) : Bool := isIllegal c && c != '\n'

/-- The rest of a text that begins inside a comment, which ends before its line does. -/
def comment (s : List Char) : Except Fault { r : List Char // r.length ≤ s.length } :=
  match (s.takeWhile (· != '\n')).find? isIllegal with
  | some c => .error ⟨.foundInvalid c, s.dropWhile (!isIllegal ·)⟩
  | none => .ok ⟨s.dropWhile (· != '\n'), length_dropWhile_le ..⟩

/-- The rest of a text after blanks, line breaks and comments. -/
def skipVoid (s : List Char) : Except Fault { r : List Char // r.length ≤ s.length } :=
  match h : s.dropWhile isBlankOrBreak with
  | '#' :: rest => do
    have hr := length_lt_of_cons h (length_dropWhile_le ..)
    let ended ← comment rest
    have he := Nat.lt_of_le_of_lt ended.property hr
    let further ← skipVoid ended.val
    return ⟨further.val, Nat.le_trans further.property (Nat.le_of_lt he)⟩
  | t => .ok ⟨t, h ▸ length_dropWhile_le ..⟩
termination_by s.length

end TokenStream.Toml
