/-!
Sets of characters, given by ascending disjoint ranges of code points. A set is a search tree over
its ranges, so that a test makes as many comparisons as the tree is deep.
-/
namespace TokenStream

inductive CharSet where
  | empty
  | node (below : CharSet) (first last : Nat) (above : CharSet)

namespace CharSet

/-- Whether the code point `n` lies in one of the ranges. -/
def holds (n : Nat) : CharSet → Bool
  | empty => false
  | node below first last above =>
    if n < first then below.holds n else if last < n then above.holds n else true

def contains (s : CharSet) (c : Char) : Bool := s.holds c.toNat

/-- The ranges of the set, in ascending order. -/
def toRanges : CharSet → List (Nat × Nat)
  | empty => []
  | node below first last above => below.toRanges ++ (first, last) :: above.toRanges

/-- A tree of at most the given depth over the first ranges, and the ranges left over. -/
def build : Nat → List (Nat × Nat) → CharSet × List (Nat × Nat)
  | 0, ranges => (empty, ranges)
  | depth + 1, ranges =>
    match build depth ranges with
    | (below, []) => (below, [])
    | (below, (first, last) :: rest) =>
      let (above, rest) := build depth rest
      (node below first last above, rest)

def ofRanges (ranges : List (Nat × Nat)) : CharSet :=
  (build (ranges.length.log2 + 1) ranges).1

variable {s : CharSet} {n depth : Nat} {ranges : List (Nat × Nat)}

theorem exists_of_holds (h : s.holds n = true) : ∃ r ∈ s.toRanges, r.1 ≤ n ∧ n ≤ r.2 := by
  induction s with
  | empty => simp [holds] at h
  | node below first last above ihb iha =>
    simp only [holds] at h
    split at h
    · obtain ⟨r, hr, hn⟩ := ihb h
      exact ⟨r, by simp [toRanges, hr], hn⟩
    · split at h
      · obtain ⟨r, hr, hn⟩ := iha h
        exact ⟨r, by simp [toRanges, hr], hn⟩
      · exact ⟨(first, last), by simp [toRanges], by omega, by omega⟩

theorem toRanges_build : (build depth ranges).1.toRanges ++ (build depth ranges).2 = ranges := by
  induction depth generalizing ranges with
  | zero => rfl
  | succ depth ih =>
    have hb := @ih ranges
    simp only [build]
    split
    · next h => simpa [h] using hb
    · next below first last rest h =>
      rw [h] at hb
      simpa [toRanges, ih] using hb

theorem length_build :
    (build depth ranges).2.length ≤ ranges.length - (Nat.pow 2 depth - 1) := by
  induction depth generalizing ranges with
  | zero => simp [build]
  | succ depth ih =>
    have hb := @ih ranges
    have hp : 0 < Nat.pow 2 depth := Nat.two_pow_pos depth
    have hs : Nat.pow 2 (depth + 1) = Nat.pow 2 depth * 2 := rfl
    rw [hs]
    simp only [build]
    split
    · simp
    · next below first last rest h =>
      rw [h] at hb
      have hr := @ih rest
      simp only [List.length_cons] at hb ⊢
      omega

theorem toRanges_ofRanges : (ofRanges ranges).toRanges = ranges := by
  have hl := @length_build (ranges.length.log2 + 1) ranges
  have hp : ranges.length < Nat.pow 2 (ranges.length.log2 + 1) := Nat.lt_log2_self
  have hnil : (build (ranges.length.log2 + 1) ranges).2 = [] := by
    apply List.eq_nil_of_length_eq_zero
    omega
  have := @toRanges_build (ranges.length.log2 + 1) ranges
  rwa [hnil, List.append_nil] at this

/-- A character of the set lies in one of the ranges that the set was made from. -/
theorem exists_of_contains_ofRanges {c : Char} (h : (ofRanges ranges).contains c = true) :
    ∃ r ∈ ranges, r.1 ≤ c.toNat ∧ c.toNat ≤ r.2 := by
  simpa [toRanges_ofRanges] using exists_of_holds h

end CharSet
end TokenStream
