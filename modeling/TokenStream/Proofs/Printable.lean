import TokenStream.CharSet.Unprintable
import TokenStream.Proofs.CharClass

/-!
Characters that are shown as they are. None of them ends a line.
-/
namespace TokenStream

/-- A character that is shown as it is. -/
def Printable (c : Char) : Prop := CharSet.unprintable.contains c = false

instance : DecidablePred Printable := fun c =>
  inferInstanceAs (Decidable (CharSet.unprintable.contains c = false))

variable {c : Char}

/-- The characters of the ASCII range other than the controls are printable. -/
theorem printable_of_ascii (hf : 0x20 ≤ c.toNat) (hl : c.toNat ≤ 0x7e) : Printable c :=
  CharSet.holds_eq_false_of_avoids (by decide +kernel) hf hl

/-! ### Ends of lines -/

/-- The characters that end a line where any character may that does in some script or device. -/
def lineEnds : List Char :=
  ['\n', '\x0b', '\x0c', '\r', '\x1c', '\x1d', '\x1e', '\x85', '\u2028', '\u2029']

theorem not_mem_lineEnds (h : Printable c) : c ∉ lineEnds := by
  have hp : lineEnds.all fun d => ¬ Printable d := by decide +kernel
  intro hm
  have hn : ¬ Printable c := by simpa using List.all_eq_true.mp hp c hm
  exact hn h

theorem ne_break_of_printable (h : Printable c) : c ≠ '\r' ∧ c ≠ '\n' := by
  constructor
  · rintro rfl
    exact not_mem_lineEnds h (by decide)
  · rintro rfl
    exact not_mem_lineEnds h (by decide)

theorem newline_not_mem {text : List Char} (h : ∀ c ∈ text, Printable c) : '\n' ∉ text :=
  fun hm => (ne_break_of_printable (h _ hm)).2 rfl

/-! ### Numerals -/

theorem mem_toString {z : Int} (h : c ∈ (toString z).toList) : c = '-' ∨ c.isDigit = true := by
  have hd : ∀ k : Nat, c ∈ k.repr.toList → c.isDigit = true := by
    intro k hk
    rw [Nat.toList_repr] at hk
    exact Nat.isDigit_of_mem_toDigits (by decide) (by decide) hk
  change c ∈ z.repr.toList at h
  rw [Int.repr_eq_if] at h
  split at h
  · exact .inr (hd _ h)
  · rw [String.toList_append] at h
    rcases List.mem_append.mp h with h | h
    · exact .inl (by simpa using h)
    · exact .inr (hd _ h)

theorem toString_ne_empty {z : Int} : toString z ≠ "" := by
  rw [Int.toString_eq_repr, Int.repr_eq_if]
  split
  · exact Nat.repr_ne_empty
  · simp

theorem not_mem_toString {z : Int} (hc : c ≠ '-') (hd : c.isDigit = false) :
    c ∉ (toString z).toList := by
  intro h
  rcases mem_toString h with h | h
  · exact hc h
  · simp [hd] at h

theorem printable_toString (z : Int) : ∀ c ∈ (toString z).toList, Printable c := by
  intro c hc
  rcases mem_toString hc with rfl | hd
  · exact printable_of_ascii (by decide) (by decide)
  · have hd : 48 ≤ c.toNat ∧ c.toNat ≤ 57 := by
      simpa [Char.isDigit, UInt32.le_iff_toNat_le] using hd
    exact printable_of_ascii (by omega) (by omega)

end TokenStream
