import TokenStream.Text.Lines

/-!
Breaks as single line feeds. A place between two characters, unless it is within a break, is on the
same line and in the same column when every break is one line feed.
-/
namespace TokenStream

namespace Lines

variable {a b text : List Char} {c : Char}

/-- Induction along a text, a break of two characters at a time. -/
@[elab_as_elim]
theorem break_induction {motive : List Char → Prop} (text : List Char) (nil : motive [])
    (pair : ∀ rest, motive rest → motive ('\r' :: '\n' :: rest))
    (single : ∀ rest, rest.head? ≠ some '\n' → motive rest → motive ('\r' :: rest))
    (other : ∀ c rest, c ≠ '\r' → motive rest → motive (c :: rest)) : motive text := by
  induction text using normalize.induct with
  | case1 => exact nil
  | case2 rest ih => exact pair rest ih
  | case3 rest hn ih =>
    refine single rest ?_ ih
    intro hh
    obtain ⟨more, rfl⟩ := List.head?_eq_some_iff.mp hh
    exact hn more rfl
  | case4 c rest _ hc ih => exact other c rest hc ih

/-! ### Single breaks -/

theorem normalize_cons (h : c ≠ '\r') : normalize (c :: text) = c :: normalize text := by
  simp [normalize, h]

theorem normalize_cr (h : text.head? ≠ some '\n') :
    normalize ('\r' :: text) = '\n' :: normalize text := by
  cases text with
  | nil => rfl
  | cons d rest =>
    have hd : d ≠ '\n' := by simpa using h
    simp [normalize, hd]

theorem normalize_of_not_mem (h : '\r' ∉ text) : normalize text = text := by
  induction text with
  | nil => rfl
  | cons c text ih =>
    obtain ⟨hc, ht⟩ := by simpa using h
    rw [normalize_cons (Ne.symm hc), ih ht]

theorem mem_of_mem_normalize (h : c ∈ normalize text) : c ∈ text ∨ c = '\n' := by
  induction text using break_induction with
  | nil => simp at h
  | pair rest ih =>
    rcases List.mem_cons.mp h with h | h
    · exact .inr h
    · exact (ih h).imp_left fun h => by simp [h]
  | single rest hn ih =>
    rw [normalize_cr hn] at h
    rcases List.mem_cons.mp h with h | h
    · exact .inr h
    · exact (ih h).imp_left fun h => by simp [h]
  | other d rest hd ih =>
    rw [normalize_cons hd] at h
    rcases List.mem_cons.mp h with h | h
    · exact .inl (by simp [h])
    · exact (ih h).imp_left fun h => by simp [h]

/-- The first character stays, unless it is a carriage return. -/
theorem cons_of_normalize_eq_cons (h : normalize text = c :: a) :
    ∃ d rest, text = d :: rest ∧ (d = c ∧ normalize rest = a ∨ d = '\r' ∧ c = '\n') := by
  induction text using break_induction with
  | nil => simp at h
  | pair rest => exact ⟨_, _, rfl, .inr ⟨rfl, (List.cons.inj h).1.symm⟩⟩
  | single rest hn =>
    rw [normalize_cr hn] at h
    exact ⟨_, _, rfl, .inr ⟨rfl, (List.cons.inj h).1.symm⟩⟩
  | other d rest hd =>
    rw [normalize_cons hd] at h
    exact ⟨_, _, rfl, .inl (List.cons.inj h)⟩

theorem normalize_eq_nil_iff : normalize text = [] ↔ text = [] := by
  induction text using break_induction with
  | nil => simp
  | pair rest => simp
  | single rest hn => simp [normalize_cr hn]
  | other d rest hd => simp [normalize_cons hd]

/-- The place between two texts is within a break. -/
def Cleaves (a b : List Char) : Prop := a.getLast? = some '\r' ∧ b.head? = some '\n'

theorem cleaves_cons (h : Cleaves a b) : Cleaves (c :: a) b := by
  cases a with
  | nil => simp [Cleaves] at h
  | cons d a => simpa [Cleaves] using h

theorem not_cleaves_nil : ¬ Cleaves [] b := fun h => nomatch h.1

theorem not_cleaves_cons (h : ¬ Cleaves a b) (ha : a = [] → c = '\r' → b.head? ≠ some '\n') :
    ¬ Cleaves (c :: a) b := by
  rintro ⟨hr, hn⟩
  cases a with
  | nil => exact ha rfl (by simpa using hr) hn
  | cons d a => exact h ⟨by simpa using hr, hn⟩

/-- Behind a break that is a single character, no second one joins it from the next text. -/
theorem head?_append_ne (h : ¬ Cleaves ('\r' :: a) b) (hn : a.head? ≠ some '\n') :
    (a ++ b).head? ≠ some '\n' := by
  cases a with
  | nil => exact fun hb => h ⟨rfl, hb⟩
  | cons d a => simpa using hn

theorem normalize_append (h : ¬ Cleaves a b) : normalize (a ++ b) = normalize a ++ normalize b := by
  induction a using break_induction with
  | nil => rfl
  | pair rest ih =>
    have hr := ih fun hr => h (cleaves_cons (cleaves_cons hr))
    simp [hr]
  | single rest hn ih =>
    have hr := ih fun hr => h (cleaves_cons hr)
    rw [List.cons_append, normalize_cr (head?_append_ne h hn), normalize_cr hn, hr, List.cons_append]
  | other c rest hc ih =>
    have hr := ih fun hr => h (cleaves_cons hr)
    rw [List.cons_append, normalize_cons hc, normalize_cons hc, hr, List.cons_append]

/-! ### Lines and places -/

theorem split_cons (hr : c ≠ '\r') (hn : c ≠ '\n') :
    split (c :: text) =
      match split text with
      | [] => [[c]]
      | line :: lines => (c :: line) :: lines := by
  cases hs : split text with
  | nil => simp [split, hs, hr]
  | cons line lines => simp [split, hs, hr]

theorem split_cr (h : text.head? ≠ some '\n') : split ('\r' :: text) = [] :: split text := by
  rw [split]
  rintro rest rfl
  simp at h

theorem last_cons {line start read : Nat} (hr : c ≠ '\r') (hn : c ≠ '\n') :
    last line start read (c :: text) = last line start (read + 1) text := by
  rw [last]
  all_goals simp_all

theorem last_cr {line start read : Nat} (h : text.head? ≠ some '\n') :
    last line start read ('\r' :: text) = last (line + 1) (read + 1) (read + 1) text := by
  rw [last]
  rintro rest rfl
  simp at h

theorem newline_not_mem_split {line : List Char} (text : List Char)
    (h : line ∈ split text) : '\n' ∉ line := by
  induction text using break_induction generalizing line with
  | nil =>
    obtain rfl : line = [] := by simpa using h
    simp
  | pair rest ih =>
    rw [split_pair] at h
    rcases List.mem_cons.mp h with rfl | h
    · simp
    · exact ih h
  | single rest hn ih =>
    rw [split_cr hn] at h
    rcases List.mem_cons.mp h with rfl | h
    · simp
    · exact ih h
  | other c rest hc ih =>
    by_cases hn : c = '\n'
    · subst hn
      rw [split_newline] at h
      rcases List.mem_cons.mp h with rfl | h
      · simp
      · exact ih h
    · rw [split_cons hc hn] at h
      generalize split rest = lines at h ih
      cases lines with
      | nil =>
        obtain rfl := List.mem_singleton.mp h
        simpa using Ne.symm hn
      | cons first lines =>
        rcases List.mem_cons.mp h with rfl | h
        · simpa [Ne.symm hn] using ih List.mem_cons_self
        · exact ih (List.mem_cons_of_mem _ h)

theorem split_normalize (text : List Char) : split (normalize text) = split text := by
  induction text using break_induction with
  | nil => rfl
  | pair rest ih => simp [ih]
  | single rest hn ih => rw [normalize_cr hn, split_cr hn, split_newline, ih]
  | other c rest hc ih =>
    rw [normalize_cons hc]
    by_cases hn : c = '\n'
    · simp [hn, ih]
    · rw [split_cons hc hn, split_cons hc hn, ih]

theorem le_last {line start read : Nat} (text : List Char) :
    line ≤ (last line start read text).1 := by
  fun_induction last line start read text with
  | case1 => exact Nat.le_refl _
  | case2 _ _ _ _ ih => omega
  | case3 _ _ _ _ _ ih => omega
  | case4 _ _ _ _ ih => omega
  | case5 _ _ _ _ _ _ _ _ ih => exact ih

/-- The text ends in the same line, and as far behind the start of that line. -/
theorem last_normalize {line start start' read read' : Nat} (text : List Char)
    (h : (read : Int) - start = read' - start') :
    (last line start' read' (normalize text)).1 = (last line start read text).1 ∧
      (read : Int) + text.length - (last line start read text).2 =
        read' + (normalize text).length - (last line start' read' (normalize text)).2 := by
  induction text using break_induction generalizing line start start' read read' with
  | nil => simpa using h
  | pair rest ih =>
    obtain ⟨hl, hs⟩ := @ih (line + 1) (read + 2) (read' + 1) (read + 2) (read' + 1) (by omega)
    simp only [normalize_pair, last_pair, last_newline, List.length_cons]
    exact ⟨hl, by omega⟩
  | single rest hn ih =>
    obtain ⟨hl, hs⟩ := @ih (line + 1) (read + 1) (read' + 1) (read + 1) (read' + 1) (by omega)
    rw [normalize_cr hn, last_cr hn, last_newline, List.length_cons, List.length_cons]
    exact ⟨hl, by omega⟩
  | other c rest hc ih =>
    rw [normalize_cons hc]
    by_cases hn : c = '\n'
    · subst hn
      obtain ⟨hl, hs⟩ := @ih (line + 1) (read + 1) (read' + 1) (read + 1) (read' + 1) (by omega)
      simp only [last_newline, List.length_cons]
      exact ⟨hl, by omega⟩
    · obtain ⟨hl, hs⟩ := @ih line start start' (read + 1) (read' + 1) (by omega)
      rw [last_cons hc hn, last_cons hc hn, List.length_cons, List.length_cons]
      exact ⟨hl, by omega⟩

end Lines

theorem splitLines_normalizeBreaks (source : String) :
    splitLines (normalizeBreaks source) = splitLines source := by
  simp [splitLines, normalizeBreaks, Lines.split_normalize]

theorem positionAt_normalizeBreaks {source : String} {s : Nat}
    (h : ¬ Lines.Cleaves (source.toList.take s) (source.toList.drop s)) (hs : s ≤ source.length) :
    let place := positionAt source s
    let place' :=
      positionAt (normalizeBreaks source) (Lines.normalize (source.toList.take s)).length
    place'.line = place.line ∧ place'.column = place.column := by
  intro place place'
  have hn := Lines.normalize_append h
  rw [List.take_append_drop] at hn
  have hlen : (source.toList.take s).length = s := by
    rw [List.length_take, String.length_toList]
    omega
  obtain ⟨hl, hc⟩ := @Lines.last_normalize 1 0 0 0 0 (source.toList.take s) rfl
  simp only [place, place', positionAt, normalizeBreaks, String.toList_ofList, Int.toNat_natCast,
    hn, List.take_left]
  exact ⟨hl, by omega⟩

end TokenStream
