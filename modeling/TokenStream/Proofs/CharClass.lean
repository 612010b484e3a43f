import TokenStream.Token.Spelling

/-!
The classes of characters that tokens start with. No character is in two of them, so the first
character of a token leaves few kinds for it.
-/
namespace TokenStream

namespace CharSet

/-- Whether no code point from `first` to `last` lies in one of the ranges. -/
def avoids (first last : Nat) : CharSet → Bool
  | empty => true
  | node below f l above =>
    if last < f then below.avoids first last
    else if f ≤ first ∧ l < first then above.avoids first last
    else false

variable {s : CharSet} {n first last : Nat} {ranges : List (Nat × Nat)} {c : Char}

theorem holds_eq_false_of_avoids (h : s.avoids first last = true) (hf : first ≤ n)
    (hl : n ≤ last) : s.holds n = false := by
  induction s with
  | empty => rfl
  | node below f l above ihb iha =>
    simp only [avoids] at h
    split at h
    · have : n < f := by omega
      simpa [holds, this] using ihb h
    · split at h
      · next hr =>
        have : ¬ n < f ∧ l < n := by omega
        simpa [holds, this] using iha h
      · simp at h

/-- Two sets have no character in common if one avoids the ranges of the other. -/
theorem contains_eq_false_of_ofRanges (h : ∀ r ∈ ranges, s.avoids r.1 r.2 = true)
    (hc : (ofRanges ranges).contains c = true) : s.contains c = false := by
  obtain ⟨r, hr, hf, hl⟩ := exists_of_contains_ofRanges hc
  exact holds_eq_false_of_avoids (h r hr) hf hl

end CharSet

section
variable {α β : Type} [BEq α] [LawfulBEq α] {table : List (α × β)} {k : α} {v : β}

theorem lookup_eq_some_iff_mem (h : (table.map Prod.fst).Nodup) :
    table.lookup k = some v ↔ (k, v) ∈ table := by
  induction table with
  | nil => simp
  | cons entry table ih =>
    obtain ⟨k', v'⟩ := entry
    obtain ⟨hk, hn⟩ := List.nodup_cons.mp h
    by_cases he : k = k'
    · subst he
      have : (k, v) ∉ table := by
        intro hm
        exact hk (List.mem_map.mpr ⟨_, hm, rfl⟩)
      simp [this, eq_comm]
    · have hb : (k == k') = false := beq_eq_false_iff_ne.mpr he
      simp [List.lookup_cons, hb, he, ih hn]

theorem table_unique {v' : β} (h : (table.map Prod.fst).Nodup) (hv : (k, v) ∈ table)
    (hv' : (k, v') ∈ table) : v = v' := by
  rw [← lookup_eq_some_iff_mem h] at hv hv'
  simpa [hv] using hv'

theorem lookup_isSome_iff_exists_mem : (table.lookup k).isSome = true ↔ ∃ v, (k, v) ∈ table := by
  simp [List.lookup_isSome_iff]

end

/-- What a character may be at the start of a token. -/
inductive CharClass where
  | space | tab | newline | quote | letter | digit | mark | unknown
deriving DecidableEq

def charClass (c : Char) : CharClass :=
  if isSpace c then .space
  else if c = '\t' then .tab
  else if newlines.contains c then .newline
  else if (quotes.lookup c).isSome then .quote
  else if isIdentStart c then .letter
  else if isDigit c then .digit
  else if (symbols.lookup c).isSome then .mark
  else .unknown

section
variable {c : Char}

/-! Of two classes that are sets of ranges, one avoids the ranges of the other. -/

theorem avoids_ranges :
    (∀ r ∈ CharSet.blankRanges, CharSet.letter.avoids r.1 r.2 = true) ∧
    (∀ r ∈ CharSet.decimalRanges, CharSet.letter.avoids r.1 r.2 = true) ∧
    ∀ r ∈ CharSet.decimalRanges, CharSet.blank.avoids r.1 r.2 = true := by
  decide +kernel

theorem letter_contains_of_blank (h : CharSet.blank.contains c = true) :
    CharSet.letter.contains c = false := by
  obtain ⟨ha, -, -⟩ := avoids_ranges
  exact CharSet.contains_eq_false_of_ofRanges ha h

theorem letter_contains_of_isDigit (h : isDigit c = true) : CharSet.letter.contains c = false := by
  obtain ⟨-, ha, -⟩ := avoids_ranges
  exact CharSet.contains_eq_false_of_ofRanges ha h

theorem blank_contains_of_isDigit (h : isDigit c = true) : CharSet.blank.contains c = false := by
  obtain ⟨-, -, ha⟩ := avoids_ranges
  exact CharSet.contains_eq_false_of_ofRanges ha h

theorem isSpace_of_isIdentStart (h : isIdentStart c = true) : isSpace c = false := by
  cases hb : CharSet.blank.contains c with
  | false => simp [isSpace, hb]
  | true => simp [isIdentStart, letter_contains_of_blank hb] at h

theorem isIdentStart_of_isDigit (h : isDigit c = true) : isIdentStart c = false := by
  simp [isIdentStart, letter_contains_of_isDigit h]

theorem isSpace_of_isDigit (h : isDigit c = true) : isSpace c = false := by
  simp [isSpace, blank_contains_of_isDigit h]

/-! The characters that are listed one by one. -/

/-- The characters that are listed, with their classes. -/
def listed : List (Char × CharClass) :=
  ('\t', .tab) :: newlines.map (·, .newline) ++ quotes.map (·.1, .quote) ++
    symbols.map (·.1, .mark) ++ operators.map (·.1, .mark)

theorem charClass_of_mem_listed {k : CharClass} (h : (c, k) ∈ listed) : charClass c = k := by
  have : ∀ entry ∈ listed, charClass entry.1 = entry.2 := by decide +kernel
  exact this _ h

theorem charClass_of_mem_newlines (h : c ∈ newlines) : charClass c = .newline :=
  charClass_of_mem_listed (by simp [listed, h])

theorem charClass_of_mem_quotes {kind : TokenKind} (h : (c, kind) ∈ quotes) :
    charClass c = .quote := by
  have hl : ∃ kind, (c, kind) ∈ quotes := ⟨kind, h⟩
  exact charClass_of_mem_listed (by simp [listed, hl])

theorem charClass_of_mem_symbols {kind : TokenKind} (h : (c, kind) ∈ symbols) :
    charClass c = .mark := by
  have hl : ∃ kind, (c, kind) ∈ symbols := ⟨kind, h⟩
  exact charClass_of_mem_listed (by simp [listed, hl])

theorem charClass_of_mem_operators {seconds : List (Char × TokenKind)}
    (h : (c, seconds) ∈ operators) : charClass c = .mark := by
  have hl : ∃ seconds, (c, seconds) ∈ operators := ⟨seconds, h⟩
  exact charClass_of_mem_listed (by simp [listed, hl])

/-- The characters that open a run of tabs, a line break or a literal. -/
def openers : List Char := '\t' :: newlines ++ quotes.map Prod.fst

theorem tests_of_mem_openers (h : c ∈ openers) : isIdentStart c = false ∧ isDigit c = false := by
  have : openers.all fun d => isIdentStart d = false ∧ isDigit d = false := by decide +kernel
  simpa using List.all_eq_true.mp this c h

theorem tests_of_not_mem_openers (h : c ∉ openers) :
    c ≠ '\t' ∧ c ∉ newlines ∧ ¬ (quotes.lookup c).isSome = true := by
  simp only [openers, List.cons_append, List.mem_cons, List.mem_append, not_or] at h
  refine ⟨h.1, h.2.1, ?_⟩
  rw [lookup_isSome_iff_exists_mem]
  simpa using h.2.2

/-! Each class is what its test says, whatever the order of the tests. -/

theorem charClass_eq_space_iff : charClass c = .space ↔ isSpace c = true := by
  unfold charClass
  grind

theorem charClass_eq_tab_iff : charClass c = .tab ↔ c = '\t' := by
  constructor
  · unfold charClass
    grind
  · rintro rfl
    exact charClass_of_mem_listed List.mem_cons_self

theorem charClass_eq_newline_iff : charClass c = .newline ↔ c ∈ newlines := by
  constructor
  · unfold charClass
    grind
  · exact charClass_of_mem_newlines

theorem charClass_eq_quote_iff : charClass c = .quote ↔ ∃ kind, (c, kind) ∈ quotes := by
  constructor
  · rw [← lookup_isSome_iff_exists_mem]
    unfold charClass
    grind
  · rintro ⟨kind, h⟩
    exact charClass_of_mem_quotes h

theorem charClass_eq_letter_iff : charClass c = .letter ↔ isIdentStart c = true := by
  constructor
  · unfold charClass
    grind
  · intro h
    have ho : c ∉ openers := by
      intro hm
      simp [(tests_of_mem_openers hm).1] at h
    simp [charClass, isSpace_of_isIdentStart h, tests_of_not_mem_openers ho, h]

theorem charClass_eq_digit_iff : charClass c = .digit ↔ isDigit c = true := by
  constructor
  · unfold charClass
    grind
  · intro h
    have ho : c ∉ openers := by
      intro hm
      simp [(tests_of_mem_openers hm).2] at h
    simp [charClass, isSpace_of_isDigit h, isIdentStart_of_isDigit h,
      tests_of_not_mem_openers ho, h]

theorem charClass_eq_mark_iff : charClass c = .mark ↔ ∃ kind, (c, kind) ∈ symbols := by
  constructor
  · rw [← lookup_isSome_iff_exists_mem]
    unfold charClass
    grind
  · rintro ⟨kind, h⟩
    exact charClass_of_mem_symbols h

end

end TokenStream
