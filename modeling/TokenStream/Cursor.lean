/-!
Cursors: a sequence of elements and a place in it. Positions count from one, so that a fresh cursor
is at position zero, before the first element. A cursor only reads its elements: whatever it does,
`elements` stays the same.
-/
namespace TokenStream

/-- The read of a cursor that went outside the elements. -/
inductive OutOfRange.Cause where
  | goTo | current | peek | range
deriving DecidableEq, Repr

structure OutOfRange where
  cause : OutOfRange.Cause
  index : Int
  length : Nat
deriving DecidableEq, Repr

def OutOfRange.Cause.message : OutOfRange.Cause → String
  | goTo => "cannot go to position"
  | current => "no current element"
  | peek => "cannot peek"
  | range => "range out of bounds"

def OutOfRange.message (e : OutOfRange) : String :=
  s!"{e.cause.message} (index {e.index}, length {e.length})"

universe u

structure Cursor (α : Type u) where
  /-- The elements up to the current one, the current one first. -/
  behind : List α
  /-- The elements after the current one. -/
  ahead : List α
  position : Nat
  position_eq : position = behind.length

namespace Cursor

variable {α : Type u}

def ofList (elements : List α) : Cursor α := ⟨[], elements, 0, rfl⟩

def elements (c : Cursor α) : List α := c.behind.reverse ++ c.ahead

def length (c : Cursor α) : Nat := c.position + c.ahead.length

def atEnd (c : Cursor α) : Bool := c.ahead.isEmpty

def remaining (c : Cursor α) : List α := c.ahead

def describe (c : Cursor α) : String :=
  s!"Cursor(position={c.position}, length={c.length})"

/-- The next element, and the cursor on it. -/
def advance? (c : Cursor α) : Option (α × Cursor α) :=
  match c.ahead with
  | [] => none
  | x :: rest => some (x, ⟨x :: c.behind, rest, c.position + 1, by simp [c.position_eq]⟩)

/-- The cursor `n` elements further on, or at the end if fewer are left. -/
def skip (c : Cursor α) (n : Nat) : Cursor α :=
  let passed := c.ahead.take n
  ⟨passed.reverse ++ c.behind, c.ahead.drop n, c.position + passed.length, by
    simp [passed, c.position_eq]; omega⟩

def goTo (c : Cursor α) (target : Int) : Except OutOfRange (Cursor α) :=
  if target < 0 ∨ (c.length : Int) < target then .error ⟨.goTo, target, c.length⟩
  else .ok ((ofList c.elements).skip target.toNat)

/-- The element `offset` steps from the current one, which is at offset zero. -/
def peek? (c : Cursor α) (offset : Int) : Option α :=
  if 0 < offset then c.ahead[(offset - 1).toNat]? else c.behind[(-offset).toNat]?

def peek (c : Cursor α) (offset : Int) : Except OutOfRange α :=
  match c.peek? offset with
  | some x => .ok x
  | none => .error ⟨.peek, c.position - 1 + offset, c.length⟩

def current (c : Cursor α) : Except OutOfRange α :=
  match c.behind with
  | x :: _ => .ok x
  | [] => .error ⟨.current, c.position - 1, c.length⟩

/-- The current element with the elements after it that satisfy `p`, up to the first that does not,
and the cursor on the last of them. The current element is not tested. -/
def advanceWhile (c : Cursor α) (p : α → Bool) : Except OutOfRange (List α × Cursor α) :=
  match c.current with
  | .error e => .error e
  | .ok x =>
    let run := c.ahead.takeWhile p
    .ok (x :: run, c.skip run.length)

/-- The index of the first element equal to `x` at or after `start`, where a negative start counts
from the end. -/
def indexOf? [BEq α] (c : Cursor α) (x : α) (start : Int) : Option Nat :=
  let first := if 0 ≤ start then start.toNat else (start + c.length).toNat
  ((c.elements.drop first).findIdx? (· == x)).map (· + first)

/-- The index found by `indexOf?`, or minus one. -/
def indexOf [BEq α] (c : Cursor α) (x : α) (start : Int) : Int :=
  match c.indexOf? x start with
  | some i => i
  | none => -1

/-- The `count` elements from the index `start`, which counts from zero. -/
def getRange (c : Cursor α) (start count : Int) : Except OutOfRange (List α) :=
  if start < 0 ∨ count < 0 ∨ (c.length : Int) < start + count then
    .error ⟨.range, start + count, c.length⟩
  else .ok ((c.elements.drop start.toNat).take count.toNat)

variable {c d : Cursor α} {x : α} {n : Nat} {p : α → Bool} {run : List α}

theorem length_elements : c.elements.length = c.length := by
  simp [elements, length, c.position_eq]

theorem drop_position : c.elements.drop c.position = c.ahead := by
  simp [elements, c.position_eq]

theorem advance?_eq_none_iff : c.advance? = none ↔ c.ahead = [] := by
  unfold advance?
  split <;> simp_all

theorem ahead_of_advance? (h : c.advance? = some (x, d)) : c.ahead = x :: d.ahead := by
  unfold advance? at h
  split at h
  · simp at h
  · next y rest hc =>
    obtain ⟨rfl, rfl⟩ := by simpa using h
    exact hc

theorem elements_of_advance? (h : c.advance? = some (x, d)) : d.elements = c.elements := by
  unfold advance? at h
  split at h
  · simp at h
  · next y rest hc =>
    obtain ⟨rfl, rfl⟩ := by simpa using h
    simp [elements, hc]

theorem advance?_of_ahead {rest : List α} (h : c.ahead = x :: rest) :
    c.advance? = some (x, c.skip 1) := by
  simp [advance?, h, skip]

theorem current_of_behind {rest : List α} (h : c.behind = x :: rest) : c.current = .ok x := by
  simp [current, h]

@[simp] theorem ahead_skip : (c.skip n).ahead = c.ahead.drop n := rfl

theorem elements_skip : (c.skip n).elements = c.elements := by
  simp [elements, skip]

@[simp] theorem position_skip : (c.skip n).position = c.position + min n c.ahead.length := by
  simp [skip]

@[simp] theorem skip_zero : c.skip 0 = c := by
  simp [skip]

theorem skip_skip {m : Nat} : (c.skip m).skip n = c.skip (m + n) := by
  simp [skip, List.take_add, List.drop_drop, Nat.add_assoc]

theorem length_skip : (c.skip n).length = c.length := by
  rw [← length_elements, elements_skip, length_elements]

theorem eq_skip_of_advance? (h : c.advance? = some (x, d)) : d = c.skip 1 := by
  have hs := advance?_of_ahead (ahead_of_advance? h)
  rw [hs] at h
  exact (Prod.mk.inj (Option.some.inj h)).2.symm

theorem skip_of_advance? (h : c.advance? = some (x, d)) : d.skip n = c.skip (n + 1) := by
  rw [eq_skip_of_advance? h, skip_skip, Nat.add_comm]

theorem position_of_advance? (h : c.advance? = some (x, d)) : d.position = c.position + 1 := by
  rw [eq_skip_of_advance? h, position_skip, ahead_of_advance? h]
  simp

theorem behind_of_advance? (h : c.advance? = some (x, d)) : d.behind = x :: c.behind := by
  rw [eq_skip_of_advance? h]
  simp [skip, ahead_of_advance? h]

/-- After a step the element stepped onto is the current one. -/
theorem current_of_advance? (h : c.advance? = some (x, d)) : d.current = .ok x :=
  current_of_behind (behind_of_advance? h)

theorem advanceWhile_of_behind {rest : List α} (h : c.behind = x :: rest) :
    c.advanceWhile p = .ok (x :: c.ahead.takeWhile p, c.skip (c.ahead.takeWhile p).length) := by
  simp [advanceWhile, current_of_behind h]

theorem ahead_of_advanceWhile (h : c.advanceWhile p = .ok (run, d)) :
    d.ahead = c.ahead.drop (c.ahead.takeWhile p).length := by
  unfold advanceWhile at h
  split at h
  · simp at h
  · obtain ⟨-, rfl⟩ := by simpa using h
    rfl

theorem length_ahead_of_advanceWhile (h : c.advanceWhile p = .ok (run, d)) :
    d.ahead.length ≤ c.ahead.length := by
  simp [ahead_of_advanceWhile h]

end Cursor
end TokenStream
