import Mathlib.Algebra.Group.Int.Defs
import Mathlib.Data.Set.Function
import TokenStream.Proofs.Lossless
import TokenStream.Proofs.Places

/-!
Positions and lines are one structure. Each place in a line, the one at its end included, is the
position of exactly one offset, and the characters around the offset are those around the place.
Offsets within a break are left out of this: they share their place with another offset.
-/
namespace TokenStream

namespace Lines

variable {a b mark text line first : List Char} {c : Char} {done lines more : List (List Char)}
  {k l : Nat}

/-- The characters are a whole break in front of the text. -/
inductive BreakBefore : List Char → List Char → Prop
  | pair (text : List Char) : BreakBefore ['\r', '\n'] text
  | carriageReturn {text : List Char} (h : text.head? ≠ some '\n') : BreakBefore ['\r'] text
  | lineFeed (text : List Char) : BreakBefore ['\n'] text

/-- Induction along a text, a whole break at a time. -/
@[elab_as_elim]
theorem line_induction {motive : List Char → Prop} (text : List Char) (nil : motive [])
    (mark : ∀ mark rest, BreakBefore mark rest → motive rest → motive (mark ++ rest))
    (other : ∀ c rest, c ≠ '\r' → c ≠ '\n' → motive rest → motive (c :: rest)) : motive text := by
  induction text using break_induction with
  | nil => exact nil
  | pair rest ih => exact mark _ rest (.pair rest) ih
  | single rest hn ih => exact mark _ rest (.carriageReturn hn) ih
  | other c rest hc ih =>
    by_cases hn : c = '\n'
    · subst hn
      exact mark _ rest (.lineFeed rest) ih
    · exact other c rest hc hn ih

theorem split_mark (h : BreakBefore mark text) : split (mark ++ text) = [] :: split text := by
  cases h with
  | pair => simp
  | carriageReturn hn => exact split_cr hn
  | lineFeed => simp

theorem mark_of_append (h : BreakBefore mark (a ++ b)) : BreakBefore mark a := by
  cases h with
  | pair => exact .pair a
  | carriageReturn hn =>
    refine .carriageReturn ?_
    cases a with
    | nil => simp
    | cons d a => simpa using hn
  | lineFeed => exact .lineFeed a

theorem not_cleaves_mark (h : BreakBefore mark (a ++ b)) (hc : ¬ Cleaves a b) :
    ¬ Cleaves (mark ++ a) b := by
  cases h with
  | pair => exact not_cleaves_cons (not_cleaves_cons hc fun _ he => nomatch he) fun he => nomatch he
  | carriageReturn hn =>
    refine not_cleaves_cons hc ?_
    rintro rfl -
    exact hn
  | lineFeed => exact not_cleaves_cons hc fun _ he => nomatch he

theorem length_split_pos (text : List Char) : 0 < (split text).length :=
  List.length_pos_iff.mpr (split_ne_nil text)

theorem length_split_cons (hr : c ≠ '\r') (hn : c ≠ '\n') :
    (split (c :: text)).length = (split text).length := by
  obtain ⟨d, ds, hs⟩ := List.exists_cons_of_ne_nil (split_ne_nil text)
  simp [split_cons_of_eq hr hn hs, hs]

/-- More text does not take lines away. -/
theorem length_split_le (a b : List Char) : (split a).length ≤ (split (a ++ b)).length := by
  induction a using line_induction with
  | nil => exact length_split_pos b
  | mark mark rest h ih =>
    rw [split_mark h, List.append_assoc]
    by_cases hb : BreakBefore mark (rest ++ b)
    · rw [split_mark hb]
      exact Nat.succ_le_succ ih
    · -- The break grows by a line feed, behind which a line starts too.
      cases h with
      | pair => exact absurd (.pair _) hb
      | lineFeed => exact absurd (.lineFeed _) hb
      | carriageReturn hn =>
        have hh : (rest ++ b).head? = some '\n' := by
          by_contra hh
          exact hb (.carriageReturn hh)
        cases rest with
        | nil =>
          obtain ⟨b', rfl⟩ := List.head?_eq_some_iff.mp hh
          simpa using Nat.succ_le_of_lt (length_split_pos b')
        | cons d rest => exact absurd hh hn
  | other c rest hr hn ih =>
    rw [List.cons_append, length_split_cons hr hn, length_split_cons hr hn]
    exact ih

/-- A text ends with its last line, and if it has no other line it is that line. -/
theorem exists_before_last (h : split text = done ++ [line]) :
    ∃ before, text = before ++ line ∧ (done = [] → before = []) := by
  induction text using line_induction generalizing done line with
  | nil =>
    obtain ⟨rfl, rfl⟩ : done = [] ∧ [] = line := by simpa using List.append_eq_cons_iff.mp h.symm
    exact ⟨[], rfl, fun _ => rfl⟩
  | mark mark rest hm ih =>
    rw [split_mark hm] at h
    obtain ⟨done', rfl, hs⟩ := eq_cons_of_break h
    obtain ⟨before, rfl, -⟩ := ih hs
    exact ⟨mark ++ before, by simp, by simp⟩
  | other c rest hr hn ih =>
    obtain ⟨d, ds, hs⟩ := List.exists_cons_of_ne_nil (split_ne_nil rest)
    rw [split_cons_of_eq hr hn hs] at h
    cases done with
    | nil =>
      obtain ⟨rfl, rfl⟩ := List.cons.inj h
      obtain ⟨before, rfl, hb⟩ := @ih d [] hs
      obtain rfl := hb rfl
      exact ⟨[], rfl, fun _ => rfl⟩
    | cons d' done' =>
      obtain ⟨rfl, rfl⟩ := List.cons.inj h
      obtain ⟨before, rfl, -⟩ := @ih line (d :: done') hs
      exact ⟨c :: before, rfl, by simp⟩

theorem eq_nil_of_split (h : split text = [[]]) : text = [] := by
  obtain ⟨before, rfl, hb⟩ := @exists_before_last text [] [] h
  simp [hb rfl]

/-- Every place in a line is where the text can be cut: behind the lines before it and so much of
its line. -/
theorem exists_cut (h : (split text)[l]? = some line) (hk : k ≤ line.length) :
    ∃ a b, text = a ++ b ∧ ¬ Cleaves a b ∧ split a = (split text).take l ++ [line.take k] := by
  induction text using line_induction generalizing l line k with
  | nil =>
    obtain ⟨rfl, rfl⟩ : l = 0 ∧ [] = line := by
      cases l <;> simp_all
    exact ⟨[], [], rfl, not_cleaves_nil, by simp⟩
  | mark mark rest hm ih =>
    rw [split_mark hm] at h ⊢
    cases l with
    | zero =>
      obtain rfl : [] = line := by simpa using h
      exact ⟨[], _, rfl, not_cleaves_nil, by simp⟩
    | succ l =>
      obtain ⟨a, b, rfl, hc, hs⟩ := ih (by simpa using h) hk
      refine ⟨mark ++ a, b, by simp, not_cleaves_mark hm hc, ?_⟩
      rw [split_mark (mark_of_append hm), hs]
      rfl
  | other c rest hr hn ih =>
    obtain ⟨d, ds, hs⟩ := List.exists_cons_of_ne_nil (split_ne_nil rest)
    rw [split_cons_of_eq hr hn hs] at h ⊢
    rw [hs] at ih
    cases l with
    | zero =>
      obtain rfl : c :: d = line := by simpa using h
      cases k with
      | zero => exact ⟨[], _, rfl, not_cleaves_nil, by simp⟩
      | succ k =>
        obtain ⟨a, b, rfl, hcl, ha⟩ := ih (l := 0) rfl (Nat.le_of_succ_le_succ hk)
        refine ⟨c :: a, b, rfl, not_cleaves_cons hcl fun _ he => absurd he hr, ?_⟩
        exact split_cons_of_eq hr hn ha
    | succ l =>
      obtain ⟨a, b, rfl, hcl, ha⟩ := ih (l := l + 1) (by simpa using h) hk
      refine ⟨c :: a, b, rfl, not_cleaves_cons hcl fun _ he => absurd he hr, ?_⟩
      exact split_cons_of_eq hr hn ha

/-- No two cuts are at the same place in the same line. -/
theorem eq_nil_of_split_append (h : ¬ Cleaves a b) (hs : split (a ++ b) = split a) : b = [] := by
  obtain ⟨done, line, hl, -⟩ := last_split 0 0 0 a
  obtain ⟨first, more, hf⟩ := List.exists_cons_of_ne_nil (split_ne_nil b)
  rw [split_append h hl hf, hl] at hs
  obtain ⟨hfirst, rfl⟩ := List.cons.inj (List.append_cancel_left hs)
  obtain rfl : first = [] := by simpa using hfirst
  exact eq_nil_of_split hf

end Lines

/-- An offset of a character or of the end that is not between the two characters of a break. -/
structure Proper (source : String) (offset : Int) : Prop where
  nonneg : 0 ≤ offset
  le_length : offset ≤ source.length
  whole : ¬ Lines.Cleaves (source.toList.take offset.toNat) (source.toList.drop offset.toNat)

/-- A column of a line is where an offset of the source is: the same characters stand before it in
the line, and the same one stands at it unless the line ends there. -/
structure Placed (source : String) (offset : Int) (line : String) (column : Int) : Prop where
  one_le : 1 ≤ column
  le_length : column ≤ line.length + 1
  le_offset : column - 1 ≤ offset
  before : slice source (offset - (column - 1)) offset = slice line 0 (column - 1)
  character : ∀ c, source.toList[offset.toNat]? = some c → c ∉ newlines →
    line.toList[(column - 1).toNat]? = some c

/-- The line and the column of an offset. -/
def place (source : String) (offset : Int) : Nat × Int :=
  ((positionAt source offset).line, (positionAt source offset).column)

/-- The places of a source: in each line one for every character, and one at the end of the line. -/
def places (source : String) : Set (Nat × Int) :=
  {p | 1 ≤ p.1 ∧ ∃ line, (splitLines source)[p.1 - 1]? = some line ∧ 1 ≤ p.2 ∧
    p.2 ≤ line.length + 1}

variable {source : String} {offset : Int} {s : Nat}

theorem proper_natCast_iff : Proper source s ↔
    s ≤ source.length ∧ ¬ Lines.Cleaves (source.toList.take s) (source.toList.drop s) := by
  constructor
  · rintro ⟨-, hs, hc⟩
    exact ⟨by omega, hc⟩
  · rintro ⟨hs, hc⟩
    exact ⟨Int.natCast_nonneg s, by omega, hc⟩

theorem line_positionAt (source : String) (offset : Int) :
    (positionAt source offset).line = (Lines.split (source.toList.take offset.toNat)).length := by
  obtain ⟨done, line, hs, hl, -⟩ := Lines.last_split 1 0 0 (source.toList.take offset.toNat)
  rw [hs, List.length_append, List.length_singleton, Nat.add_comm]
  exact hl

theorem line_bounds (source : String) (offset : Int) :
    1 ≤ (positionAt source offset).line ∧
      (positionAt source offset).line ≤ (splitLines source).length := by
  have hp := Lines.length_split_pos (source.toList.take offset.toNat)
  have hl := Lines.length_split_le (source.toList.take offset.toNat)
    (source.toList.drop offset.toNat)
  rw [List.take_append_drop] at hl
  rw [line_positionAt, splitLines, List.length_map]
  exact ⟨hp, hl⟩

/-- An error is on a line of its source, wherever its offset is. -/
theorem getElem?_sourceLine (e : LexError) :
    (splitLines e.source)[e.position.line - 1]? = some e.sourceLine := by
  obtain ⟨hf, hl⟩ := line_bounds e.source e.offset
  have hlt : e.position.line - 1 < (splitLines e.source).length := by
    change (positionAt e.source e.offset).line - 1 < _
    omega
  rw [LexError.sourceLine, List.getElem?_eq_getElem hlt, Option.getD_some]

/-- What ends a text before a cut is the slice that ends at the cut. -/
theorem slice_of_suffix {line : List Char} (hs : s ≤ source.length)
    (h : line <:+ source.toList.take s) :
    slice source (s - line.length) s = String.ofList line := by
  obtain ⟨before, hb⟩ := h
  have hlen := congrArg List.length hb
  rw [List.length_append, List.length_take, String.length_toList, Nat.min_eq_left hs] at hlen
  have hp : line <+: source.toList.drop before.length := by
    refine ⟨source.toList.drop s, ?_⟩
    conv_rhs => rw [← List.take_append_drop s source.toList, ← hb]
    simp
  have hstart : (s : Int) - line.length = before.length := by omega
  have hstop : (s : Int) = before.length + line.length := by omega
  rw [hstart, hstop]
  exact slice_of_starts hp

/-- A proper offset has a place in a line. -/
theorem exists_placed (h : Proper source offset) :
    ∃ line, (splitLines source)[(positionAt source offset).line - 1]? = some line ∧
      Placed source offset line (positionAt source offset).column := by
  obtain ⟨s, rfl⟩ := Int.eq_ofNat_of_zero_le h.nonneg
  obtain ⟨hs, hc⟩ := proper_natCast_iff.mp h
  obtain ⟨done, line, first, more, hl, -, hw, hline, hcolumn⟩ := positionAt_cut hs hc
  have hk : (positionAt source s).column - 1 = line.length := by omega
  have hlines : (splitLines source)[(positionAt source s).line - 1]? =
      some (String.ofList (line ++ first)) := by
    rw [hline]
    simp [splitLines, hw]
  obtain ⟨before, hb, -⟩ := Lines.exists_before_last hl
  have hsuffix : line <:+ source.toList.take s := ⟨before, hb.symm⟩
  refine ⟨_, hlines, by omega, ?_, ?_, ?_, ?_⟩
  · rw [hcolumn, String.length_ofList, List.length_append]
    omega
  · have hle := hsuffix.length_le
    rw [List.length_take] at hle
    omega
  · have hp : line <+: (String.ofList (line ++ first)).toList.drop 0 := by simp
    have hstart := slice_of_starts hp
    rw [hk, slice_of_suffix hs hsuffix]
    simpa using hstart.symm
  · intro c hcharacter hnl
    rw [Int.toNat_natCast, ← List.head?_drop] at hcharacter
    obtain ⟨rest, hd⟩ := List.head?_eq_some_iff.mp hcharacter
    obtain ⟨l, k, line', hl', hk', hline', hc'⟩ := exists_place hd hnl
    have hcol : ((positionAt source s).column - 1).toNat = k := by omega
    rw [hl', Nat.add_sub_cancel, hline'] at hlines
    obtain rfl := Option.some.inj hlines
    rwa [hcol]

/-! ### One offset for each place -/

theorem mapsTo_place (source : String) :
    Set.MapsTo (place source) {offset | Proper source offset} (places source) := by
  intro offset h
  obtain ⟨line, hl, hp⟩ := exists_placed h
  exact ⟨(line_bounds source offset).1, line, hl, hp.one_le, hp.le_length⟩

theorem not_cleaves_take {a b : List Char} {n : Nat} (h : ¬ Lines.Cleaves a b) :
    ¬ Lines.Cleaves a (b.take n) := by
  rintro ⟨hr, hn⟩
  obtain ⟨rest, ht⟩ := List.head?_eq_some_iff.mp hn
  apply h
  refine ⟨hr, ?_⟩
  rw [← List.take_append_drop n b, ht]
  rfl

theorem eq_of_place {t : Nat} (hs : Proper source s) (ht : Proper source t) (hle : s ≤ t)
    (h : place source s = place source t) : s = t := by
  obtain ⟨hs, hc⟩ := proper_natCast_iff.mp hs
  obtain ⟨ht, hc'⟩ := proper_natCast_iff.mp ht
  obtain ⟨hline, hcolumn⟩ := Prod.mk.inj h
  obtain ⟨done, line, first, more, ha, -, hw, hn, hk⟩ := positionAt_cut hs hc
  obtain ⟨done', line', first', more', ha', -, hw', hn', hk'⟩ := positionAt_cut ht hc'
  -- Up to both cuts the lines are the same, so nothing stands between the cuts.
  rw [hw] at hw'
  obtain ⟨rfl, hlines⟩ := List.append_inj hw' (by omega)
  obtain ⟨rfl, -⟩ := List.append_inj (List.cons.inj hlines).1 (by omega)
  have htake : source.toList.take t =
      source.toList.take s ++ (source.toList.drop s).take (t - s) := by
    rw [← List.take_add, Nat.add_sub_cancel' hle]
  have hb : (source.toList.drop s).take (t - s) = [] := by
    apply Lines.eq_nil_of_split_append (not_cleaves_take hc)
    rw [← htake]
    exact ha'.trans ha.symm
  have hlen := congrArg List.length hb
  rw [List.length_take, List.length_drop, String.length_toList, List.length_nil] at hlen
  omega

theorem injOn_place (source : String) :
    Set.InjOn (place source) {offset | Proper source offset} := by
  intro offset h offset' h' he
  obtain ⟨s, rfl⟩ := Int.eq_ofNat_of_zero_le h.nonneg
  obtain ⟨t, rfl⟩ := Int.eq_ofNat_of_zero_le h'.nonneg
  rcases Nat.le_total s t with hle | hle
  · rw [eq_of_place h h' hle he]
  · rw [eq_of_place h' h hle he.symm]

theorem surjOn_place (source : String) :
    Set.SurjOn (place source) {offset | Proper source offset} (places source) := by
  rintro ⟨l, column⟩ ⟨hl, line, hline, hc, hk⟩
  obtain ⟨characters, hcharacters, rfl⟩ : ∃ characters,
      (Lines.split source.toList)[l - 1]? = some characters ∧ String.ofList characters = line := by
    simpa [splitLines] using hline
  dsimp only at hl hc hk
  rw [String.length_ofList] at hk
  have hcut := @Lines.exists_cut source.toList characters (column - 1).toNat (l - 1) hcharacters
  obtain ⟨a, b, hab, hcl, ha⟩ := hcut (by omega)
  have htake : source.toList.take a.length = a := by rw [hab, List.take_left]
  have hdrop : source.toList.drop a.length = b := by rw [hab, List.drop_left]
  have hle : a.length ≤ source.length := by
    rw [← String.length_toList, hab, List.length_append]
    omega
  have hproper : ¬ Lines.Cleaves (source.toList.take a.length) (source.toList.drop a.length) := by
    rwa [htake, hdrop]
  refine ⟨a.length, proper_natCast_iff.mpr ⟨hle, hproper⟩, ?_⟩
  obtain ⟨done, line, -, -, hs, -, -, hn, hk'⟩ := positionAt_cut hle hproper
  rw [htake, ha] at hs
  obtain ⟨rfl, hlast⟩ := List.append_inj' hs rfl
  obtain rfl := List.singleton_inj.mp hlast
  obtain ⟨hlt, -⟩ := List.getElem?_eq_some_iff.mp hcharacters
  rw [List.length_take, Nat.min_eq_left (by omega)] at hn hk'
  refine Prod.ext ?_ ?_
  · change (positionAt source a.length).line = l
    omega
  · change (positionAt source a.length).column = column
    omega

theorem bijOn_place (source : String) :
    Set.BijOn (place source) {offset | Proper source offset} (places source) :=
  ⟨mapsTo_place source, injOn_place source, surjOn_place source⟩

end TokenStream
