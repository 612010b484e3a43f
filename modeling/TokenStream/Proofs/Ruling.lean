import Mathlib.Data.List.Chain
import TokenStream.Proofs.LineStructure

/-!
Texts told by their lines and the breaks between them. Each text is told in one way only, if a
carriage return with a line feed right behind it always counts as one break; and its lines are the
ones that it is split into.
-/
namespace TokenStream

inductive LineBreak where
  | carriageReturnLineFeed | carriageReturn | lineFeed
deriving DecidableEq

def LineBreak.text : LineBreak → String
  | carriageReturnLineFeed => "\r\n"
  | carriageReturn => "\r"
  | lineFeed => "\n"

/-- The line holds no character of a break. -/
def Unbroken (line : String) : Prop := ∀ c ∈ line.toList, c ∉ newlines

/-- Two breaks with an empty line between them, each with the line behind it, that would be read as
one break. -/
def Fuses (x y : LineBreak × String) : Prop :=
  x.1 = .carriageReturn ∧ x.2 = "" ∧ y.1 = .lineFeed

/-- The text of a first line and of more lines, each with the break before it. -/
def joinLines (first : String) : List (LineBreak × String) → String
  | [] => first
  | (mark, line) :: more => first ++ mark.text ++ joinLines line more

/-- The lines hold no breaks, and no two of the breaks between them would be read as one. -/
structure Ruled (first : String) (more : List (LineBreak × String)) : Prop where
  unbroken : ∀ line ∈ first :: more.map Prod.snd, Unbroken line
  apart : more.IsChain fun x y => ¬ Fuses x y

/-- A text by its lines, each but the first with the break before it. -/
@[ext]
structure Ruling where
  first : String
  more : List (LineBreak × String)
  ruled : Ruled first more

namespace Ruling

def lines (r : Ruling) : List String := r.first :: r.more.map Prod.snd

def text (r : Ruling) : String := joinLines r.first r.more

end Ruling

variable {first first' line text : String} {more more' : List (LineBreak × String)}
  {mark mark' : LineBreak}

open Lines

theorem breakBefore_iff {rest : List Char} :
    BreakBefore mark.text.toList rest ↔
      ¬ (mark = .carriageReturn ∧ rest.head? = some '\n') := by
  cases mark with
  | carriageReturnLineFeed => exact iff_of_true (.pair rest) (by simp)
  | lineFeed => exact iff_of_true (.lineFeed rest) (by simp)
  | carriageReturn =>
    constructor
    · rintro h ⟨-, hn⟩
      cases h with
      | carriageReturn h => exact h hn
    · intro h
      exact .carriageReturn fun hn => h ⟨rfl, hn⟩

theorem exists_lineBreak {mark rest : List Char} (h : BreakBefore mark rest) :
    ∃ b : LineBreak, b.text.toList = mark := by
  cases h with
  | pair => exact ⟨.carriageReturnLineFeed, rfl⟩
  | carriageReturn => exact ⟨.carriageReturn, rfl⟩
  | lineFeed => exact ⟨.lineFeed, rfl⟩

theorem unbroken_empty : Unbroken "" := fun _ hc => nomatch hc

/-- A text starts with a line feed only if its first line is empty and a line feed is behind it. -/
theorem head?_joinLines_iff (hf : Unbroken first) :
    (joinLines first more).toList.head? = some '\n' ↔
      first = "" ∧ ∃ x ∈ more.head?, x.1 = .lineFeed := by
  by_cases h : first = ""
  · subst h
    match more with
    | [] => simp [joinLines]
    | (mark, line) :: more => cases mark <;> simp [joinLines, LineBreak.text]
  · obtain ⟨c, rest, hc⟩ := List.exists_cons_of_ne_nil (mt String.toList_eq_nil_iff.mp h)
    have hn : c ≠ '\n' := by
      rintro rfl
      exact hf '\n' (by simp [hc]) (by decide)
    have hh : (joinLines first more).toList.head? = some c := by
      cases more <;> simp [joinLines, hc]
    simp [hh, hn, h]

/-- A break is whole before a text unless it fuses with the break behind the first line of it. -/
theorem breakBefore_joinLines_iff (hf : Unbroken first) :
    BreakBefore mark.text.toList (joinLines first more).toList ↔
      ∀ x ∈ more.head?, ¬ Fuses (mark, first) x := by
  rw [breakBefore_iff, head?_joinLines_iff hf]
  simp only [Fuses]
  grind

theorem ruled_nil_iff : Ruled first [] ↔ Unbroken first :=
  ⟨fun h => h.unbroken first (by simp), fun h => ⟨by simpa using h, .nil⟩⟩

/-- One line more may stand before a text if the break behind it is whole there. -/
theorem ruled_cons_iff :
    Ruled first ((mark, line) :: more) ↔
      Unbroken first ∧ BreakBefore mark.text.toList (joinLines line more).toList ∧
        Ruled line more := by
  constructor
  · rintro ⟨hu, ha⟩
    obtain ⟨hf, hu⟩ := List.forall_mem_cons.mp hu
    obtain ⟨hh, ha⟩ := List.isChain_cons.mp ha
    exact ⟨hf, (breakBefore_joinLines_iff (hu line (by simp))).mpr hh, hu, ha⟩
  · rintro ⟨hf, hb, hu, ha⟩
    have hh := (breakBefore_joinLines_iff (hu line (by simp))).mp hb
    exact ⟨List.forall_mem_cons.mpr ⟨hf, hu⟩, List.isChain_cons.mpr ⟨hh, ha⟩⟩

/-! ### From lines to a text and back -/

theorem split_unbroken_append {line text head : List Char} {tail : List (List Char)}
    (hl : ∀ c ∈ line, c ∉ newlines) (hs : split text = head :: tail) :
    split (line ++ text) = (line ++ head) :: tail := by
  induction line with
  | nil => exact hs
  | cons c line ih =>
    obtain ⟨hc, hl⟩ := List.forall_mem_cons.mp hl
    obtain ⟨hn, hr⟩ : c ≠ '\n' ∧ c ≠ '\r' := by simpa [newlines] using hc
    exact split_cons_of_eq hr hn (ih hl)

theorem splitLines_unbroken (h : Unbroken line) : splitLines line = [line] := by
  have hs := split_unbroken_append h (rfl : split [] = [[]])
  rw [List.append_nil] at hs
  simp [splitLines, hs]

/-- A line and the break behind it are split off. -/
theorem splitLines_cons (hf : Unbroken first) (h : BreakBefore mark.text.toList text.toList) :
    splitLines (first ++ mark.text ++ text) = first :: splitLines text := by
  have hs := split_unbroken_append hf (split_mark h)
  simp [splitLines, hs]

theorem splitLines_joinLines (h : Ruled first more) :
    splitLines (joinLines first more) = first :: more.map Prod.snd := by
  induction more generalizing first with
  | nil => exact splitLines_unbroken (ruled_nil_iff.mp h)
  | cons x more ih =>
    obtain ⟨hf, hb, hr⟩ := ruled_cons_iff.mp h
    rw [joinLines, splitLines_cons hf hb, ih hr]
    rfl

/-- Two breaks before two texts are the same if both are whole there and all is the same text. -/
theorem eq_of_breakBefore {rest rest' : List Char} (h : BreakBefore mark.text.toList rest)
    (h' : BreakBefore mark'.text.toList rest')
    (he : mark.text.toList ++ rest = mark'.text.toList ++ rest') : mark = mark' := by
  rw [breakBefore_iff] at h h'
  cases mark <;> cases mark' <;> simp [LineBreak.text] at h h' he ⊢ <;> grind

theorem eq_of_lines (h : Ruled first more) (h' : Ruled first more')
    (hlines : more.map Prod.snd = more'.map Prod.snd)
    (he : joinLines first more = joinLines first more') : more = more' := by
  induction more generalizing first more' with
  | nil => exact (List.map_eq_nil_iff.mp hlines.symm).symm
  | cons x more ih =>
    obtain ⟨mark, line⟩ := x
    obtain ⟨⟨mark', line'⟩, more', rfl, hl, hmore⟩ := List.map_eq_cons_iff.mp hlines.symm
    obtain rfl : line' = line := hl
    obtain ⟨-, hb, hr⟩ := ruled_cons_iff.mp h
    obtain ⟨-, hb', hr'⟩ := ruled_cons_iff.mp h'
    have hrest : mark.text.toList ++ (joinLines line' more).toList =
        mark'.text.toList ++ (joinLines line' more').toList := by
      simpa [joinLines, String.append_assoc] using congrArg String.toList he
    obtain rfl := eq_of_breakBefore hb hb' hrest
    have hjoin := String.toList_injective (List.append_cancel_left hrest)
    rw [ih hr hr' hmore.symm hjoin]

/-- A text is split into the lines that it is joined from, so these are the same for the same text,
and then the breaks are too. -/
theorem joinLines_injective (h : Ruled first more) (h' : Ruled first' more')
    (he : joinLines first more = joinLines first' more') : first = first' ∧ more = more' := by
  have hlines := congrArg splitLines he
  rw [splitLines_joinLines h, splitLines_joinLines h'] at hlines
  obtain ⟨rfl, hmore⟩ := List.cons.inj hlines
  exact ⟨rfl, eq_of_lines h h' hmore he⟩

/-! ### From a text to lines -/

/-- A character that is not of a break may stand before the first line. -/
theorem ruled_push {c : Char} (hc : c ∉ newlines) (h : Ruled first more) :
    Ruled (String.ofList [c] ++ first) more ∧
      joinLines (String.ofList [c] ++ first) more = String.ofList [c] ++ joinLines first more := by
  have hf : Unbroken first → Unbroken (String.ofList [c] ++ first) := by
    intro hf
    simpa [Unbroken, hc] using hf
  cases more with
  | nil => exact ⟨ruled_nil_iff.mpr (hf (ruled_nil_iff.mp h)), rfl⟩
  | cons x more =>
    obtain ⟨hu, hb, hr⟩ := ruled_cons_iff.mp h
    exact ⟨ruled_cons_iff.mpr ⟨hf hu, hb, hr⟩, by simp [joinLines, String.append_assoc]⟩

theorem exists_ruled (text : List Char) :
    ∃ first more, Ruled first more ∧ joinLines first more = String.ofList text := by
  induction text using line_induction with
  | nil => exact ⟨"", [], ruled_nil_iff.mpr unbroken_empty, rfl⟩
  | mark characters rest hb ih =>
    obtain ⟨line, more, hr, hj⟩ := ih
    obtain ⟨mark, rfl⟩ := exists_lineBreak hb
    refine ⟨"", (mark, line) :: more, ruled_cons_iff.mpr ⟨unbroken_empty, ?_, hr⟩, ?_⟩
    · rw [hj, String.toList_ofList]
      exact hb
    · simp [joinLines, hj]
  | other c rest hcr hn ih =>
    obtain ⟨first, more, hr, hj⟩ := ih
    have hc : c ∉ newlines := by simp [newlines, hcr, hn]
    obtain ⟨hr, hj'⟩ := ruled_push hc hr
    exact ⟨_, more, hr, by rw [hj', hj, ← String.ofList_append, List.singleton_append]⟩

theorem flatten_split (text : List Char) :
    (split text).flatten = text.filter fun c => c ∉ newlines := by
  induction text using line_induction with
  | nil => rfl
  | mark mark rest h ih =>
    have hm : mark.filter (fun c => c ∉ newlines) = [] := by
      cases h <;> decide
    rw [split_mark h, List.flatten_cons, ih, List.filter_append, hm]
  | other c rest hr hn ih =>
    have hc : c ∉ newlines := by simp [newlines, hr, hn]
    obtain ⟨line, lines, hs⟩ := List.exists_cons_of_ne_nil (split_ne_nil rest)
    rw [split_cons_of_eq hr hn hs, List.filter_cons_of_pos (by simpa using hc), ← ih, hs]
    rfl

/-- Every text is joined in exactly one way from lines and breaks, and it is split into these lines;
the breaks are all that is not in the lines. -/
theorem splitLines_inverts_joining :
    (∀ source : String, ∃ r : Ruling, r.text = source ∧ splitLines source = r.lines ∧
      ∀ r' : Ruling, r'.text = source → r' = r) ∧
    (∀ r : Ruling, splitLines r.text = r.lines) ∧
    ∀ source : String, (splitLines source).flatMap String.toList =
      source.toList.filter fun c => c ∉ newlines := by
  refine ⟨?_, ?_, ?_⟩
  · intro source
    obtain ⟨first, more, hr, hj⟩ := exists_ruled source.toList
    rw [String.ofList_toList] at hj
    refine ⟨⟨first, more, hr⟩, hj, ?_, ?_⟩
    · rw [← hj]
      exact splitLines_joinLines hr
    · intro r' hr'
      obtain ⟨hfirst, hmore⟩ := joinLines_injective r'.ruled hr (hr'.trans hj.symm)
      exact Ruling.ext hfirst hmore
  · intro r
    exact splitLines_joinLines r.ruled
  · intro source
    have hl : (splitLines source).map String.toList = split source.toList := by
      simp [splitLines]
    rw [List.flatMap_def, hl, flatten_split]

end TokenStream
