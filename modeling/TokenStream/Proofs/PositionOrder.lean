import Mathlib.Data.Prod.Lex
import TokenStream.Proofs.LineStructure

/-!
The order of positions. One offset further the position goes to the next column, or behind a break
to the next line; only the step from within a break to its end leaves it where it is. So positions
come in the order of their offsets, and no others share one.
-/
namespace TokenStream

namespace Lines

variable {a : List Char} {c : Char} {done : List (List Char)} {line : List Char}

/-- A line feed that completes a break adds no line. -/
theorem split_append_of_cleaves (h : Cleaves a ['\n']) : split (a ++ ['\n']) = split a := by
  obtain ⟨a', rfl⟩ := List.getLast?_eq_some_iff.mp h.1
  obtain ⟨done, line, hs, -⟩ := last_split 0 0 0 a'
  have hc : ¬ Cleaves a' ['\r'] := fun h => nomatch h.2
  have hc' : ¬ Cleaves a' ['\r', '\n'] := fun h => nomatch h.2
  have hone : split (a' ++ ['\r']) = done ++ (line ++ []) :: [[]] := split_append hc hs rfl
  have hpair : split (a' ++ ['\r', '\n']) = done ++ (line ++ []) :: [[]] := split_append hc' hs rfl
  rw [hone, List.append_assoc]
  exact hpair

/-- Any other character of a break adds an empty line. -/
theorem split_append_newline (h : ¬ Cleaves a [c]) (hc : c ∈ newlines)
    (ha : split a = done ++ [line]) : split (a ++ [c]) = done ++ [line] ++ [[]] := by
  have hs : split [c] = [[], []] := by
    rcases List.mem_cons.mp hc with rfl | hc
    · rfl
    · obtain rfl := List.mem_singleton.mp hc
      rfl
  rw [split_append h ha hs]
  simp

theorem split_append_singleton (hc : c ∉ newlines) (ha : split a = done ++ [line]) :
    split (a ++ [c]) = done ++ [line ++ [c]] := by
  obtain ⟨hn, hr⟩ : c ≠ '\n' ∧ c ≠ '\r' := by simpa [newlines] using hc
  have hs : split [c] = [[c]] := split_cons_of_eq hr hn rfl
  have hcl : ¬ Cleaves a [c] := fun h => hn (by simpa using h.2)
  exact split_append hcl ha hs

end Lines

/-- An offset between the two characters of a break. -/
structure WithinBreak (source : String) (offset : Int) : Prop where
  one_le : 1 ≤ offset
  lt_length : offset < source.length
  carriageReturn : source.toList[(offset - 1).toNat]? = some '\r'
  lineFeed : source.toList[offset.toNat]? = some '\n'

variable {source : String} {offset a b : Int} {s : Nat} {c : Char}

theorem withinBreak_iff_cleaves (h : source.toList[s]? = some c) :
    WithinBreak source s ↔ Lines.Cleaves (source.toList.take s) [c] := by
  obtain ⟨hlt, -⟩ := List.getElem?_eq_some_iff.mp h
  rw [String.length_toList] at hlt
  have hlast : 1 ≤ s → (source.toList.take s).getLast? = source.toList[s - 1]? := by
    intro hs
    have hlt' : s - 1 < source.toList.length := by
      rw [String.length_toList]
      omega
    rw [List.getLast?_take, if_neg (by omega), List.getElem?_eq_getElem hlt', Option.some_or]
  have hpred : ((s : Int) - 1).toNat = s - 1 := by omega
  constructor
  · rintro ⟨hs, -, hr, hn⟩
    rw [hpred] at hr
    rw [Int.toNat_natCast, h] at hn
    exact ⟨(hlast (by omega)).trans hr, hn⟩
  · rintro ⟨hr, hn⟩
    have hs : 1 ≤ s := by
      by_contra hs
      obtain rfl : s = 0 := by omega
      exact nomatch hr
    refine ⟨by omega, by omega, ?_, ?_⟩
    · rw [hpred, ← hlast hs, hr]
    · rw [Int.toNat_natCast, h]
      exact hn

/-! ### One step -/

/-- All that a step to the next offset may do to the position. -/
inductive Advance (source : String) (offset : Int) : Nat × Int → Prop
  | within (h : WithinBreak source offset) : Advance source offset (place source offset)
  | line (h : ¬ WithinBreak source offset) :
    Advance source offset ((place source offset).1 + 1, 1)
  | column (h : ¬ WithinBreak source offset) :
    Advance source offset ((place source offset).1, (place source offset).2 + 1)

theorem place_eq_of_split {done : List (List Char)} {line : List Char} (hs : s ≤ source.length)
    (h : Lines.split (source.toList.take s) = done ++ [line]) :
    place source s = (done.length + 1, (line.length : Int) + 1) := by
  obtain ⟨done', line', h', hline, hcolumn⟩ := positionAt_split hs
  obtain ⟨rfl, hl⟩ := List.append_inj' (h.symm.trans h') rfl
  obtain rfl := List.singleton_inj.mp hl
  exact Prod.ext hline hcolumn

/-- Where there is no character to pass, only the column changes. -/
theorem place_succ_of_take_eq
    (h : source.toList.take (offset + 1).toNat = source.toList.take offset.toNat) :
    place source (offset + 1) = ((place source offset).1, (place source offset).2 + 1) := by
  simp only [place, positionAt, h]
  exact Prod.ext rfl (by omega)

theorem advance_of_character (h : source.toList[s]? = some c) :
    Advance source s (place source (s + 1 : Nat)) := by
  obtain ⟨hlt, -⟩ := List.getElem?_eq_some_iff.mp h
  have hle : s + 1 ≤ source.length := by rwa [String.length_toList] at hlt
  have htake : source.toList.take (s + 1) = source.toList.take s ++ [c] := by
    rw [List.take_add_one, h, Option.toList_some]
  obtain ⟨done, line, hs, -⟩ := Lines.last_split 0 0 0 (source.toList.take s)
  have hplace := place_eq_of_split (by omega) hs
  by_cases hw : WithinBreak source s
  · have hc := (withinBreak_iff_cleaves h).mp hw
    obtain rfl : c = '\n' := by simpa using hc.2
    rw [place_eq_of_split hle (htake ▸ (Lines.split_append_of_cleaves hc).trans hs), ← hplace]
    exact .within hw
  · have hc : ¬ Lines.Cleaves (source.toList.take s) [c] := mt (withinBreak_iff_cleaves h).mpr hw
    by_cases hn : c ∈ newlines
    · have hline := Advance.line hw
      rw [place_eq_of_split hle (htake ▸ Lines.split_append_newline hc hn hs)]
      simpa [hplace] using hline
    · have hcolumn := Advance.column hw
      rw [place_eq_of_split hle (htake ▸ Lines.split_append_singleton hn hs)]
      simpa [hplace] using hcolumn

theorem advance_place (source : String) (offset : Int) :
    Advance source offset (place source (offset + 1)) := by
  by_cases h : 0 ≤ offset ∧ offset < source.length
  · obtain ⟨s, rfl⟩ := Int.eq_ofNat_of_zero_le h.1
    have hlt : s < source.toList.length := by
      rw [String.length_toList]
      omega
    exact advance_of_character (List.getElem?_eq_getElem hlt)
  · have hw : ¬ WithinBreak source offset := by
      rintro ⟨ho, hl, -, -⟩
      omega
    have ht : source.toList.take (offset + 1).toNat = source.toList.take offset.toNat := by
      rcases Int.lt_or_le offset 0 with ho | ho
      · have hz : (offset + 1).toNat = 0 := by omega
        have hz' : offset.toNat = 0 := by omega
        rw [hz, hz']
      · have hl := String.length_toList (s := source)
        rw [List.take_of_length_le (by omega), List.take_of_length_le (by omega)]
    rw [place_succ_of_take_eq ht]
    exact .column hw

theorem place_le_succ (source : String) (offset : Int) :
    toLex (place source offset) ≤ toLex (place source (offset + 1)) := by
  rw [Prod.Lex.toLex_le_toLex]
  generalize hp : place source (offset + 1) = p
  cases hp ▸ advance_place source offset with
  | within => exact .inr ⟨rfl, Int.le_refl _⟩
  | line => exact .inl (Nat.lt_succ_self _)
  | column => exact .inr ⟨rfl, by dsimp only; omega⟩

theorem place_succ_eq_iff :
    place source (offset + 1) = place source offset ↔ WithinBreak source offset := by
  generalize hp : place source (offset + 1) = p
  cases hp ▸ advance_place source offset with
  | within h => exact iff_of_true rfl h
  | line h =>
    refine iff_of_false (fun he => ?_) h
    have := congrArg Prod.fst he
    dsimp only at this
    omega
  | column h =>
    refine iff_of_false (fun he => ?_) h
    have := congrArg Prod.snd he
    dsimp only at this
    omega

/-! ### Any two offsets -/

theorem place_le_place (h : a ≤ b) : toLex (place source a) ≤ toLex (place source b) := by
  have hm : Monotone fun offset => toLex (place source offset) :=
    monotone_int_of_le_succ (place_le_succ source)
  exact hm h

theorem not_withinBreak_succ (h : WithinBreak source offset) :
    ¬ WithinBreak source (offset + 1) := by
  intro h'
  have hr := h'.carriageReturn
  rw [Int.add_sub_cancel, h.lineFeed] at hr
  exact absurd hr (by decide)

/-- Two offsets share a position only if the first is within a break and the second at its end. -/
theorem place_eq_iff (h : a < b) :
    place source a = place source b ↔ b = a + 1 ∧ WithinBreak source a := by
  constructor
  · intro he
    -- Between them no position is passed, so every step on the way stays.
    have hstay : ∀ offset, a ≤ offset → offset < b → WithinBreak source offset := by
      intro offset ha hb
      have hfirst : toLex (place source a) ≤ toLex (place source offset) :=
        place_le_place ha
      have hlast : toLex (place source (offset + 1)) ≤ toLex (place source b) :=
        place_le_place hb
      rw [← he] at hlast
      exact place_succ_eq_iff.mp
        (toLex.injective (le_antisymm (hlast.trans hfirst) (place_le_succ source offset)))
    have hw := hstay a (Int.le_refl a) h
    refine ⟨?_, hw⟩
    by_contra hne
    exact not_withinBreak_succ hw (hstay (a + 1) (by omega) (by omega))
  · rintro ⟨rfl, hw⟩
    exact (place_succ_eq_iff.mpr hw).symm

/-- The positions `p` and `q` of two offsets, `a` and a later one `b`, are in order. They are one
place only where the second offset completes the break that the first is within. -/
structure InOrder (source : String) (a b : Int) (p q : Position) : Prop where
  le : toLex (p.line, p.column) ≤ toLex (q.line, q.column)
  eq_iff : (p.line, p.column) = (q.line, q.column) ↔ b = a + 1 ∧ WithinBreak source a

theorem inOrder_positionAt (h : a < b) :
    InOrder source a b (positionAt source a) (positionAt source b) where
  le := place_le_place h.le
  eq_iff := place_eq_iff h

theorem positionAt?_eq_some_iff {p : Position} :
    positionAt? source offset = some p ↔
      (-2 ^ 63 ≤ offset ∧ offset < 2 ^ 63) ∧ positionAt source offset = p := by
  have hp : Int.pow 2 63 = 2 ^ 63 := rfl
  unfold positionAt? isOffset
  rw [hp]
  simp

end TokenStream
