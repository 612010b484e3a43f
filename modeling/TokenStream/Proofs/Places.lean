import TokenStream.Proofs.Breaks
import TokenStream.Proofs.Stream

/-!
Places in the lines of a text. A cut between two characters, unless it is within a break, is in one
line, and its position tells which line that is and how much of the line is before it.
-/
namespace TokenStream

namespace Lines

variable {a b text line first : List Char} {c : Char} {done lines more : List (List Char)}

theorem split_ne_nil (text : List Char) : split text ≠ [] := by
  induction text using break_induction with
  | nil => simp
  | pair rest => simp
  | single rest hn => simp [split_cr hn]
  | other c rest hc ih =>
    by_cases hn : c = '\n'
    · simp [hn]
    · rw [split_cons hc hn]
      split <;> simp

theorem split_cons_of_eq (hr : c ≠ '\r') (hn : c ≠ '\n') (h : split text = line :: lines) :
    split (c :: text) = (c :: line) :: lines := by
  rw [split_cons hr hn, h]

/-- Behind a break the last line is that of the rest. -/
theorem eq_cons_of_break (h : [] :: split text = done ++ [line]) :
    ∃ done', done = [] :: done' ∧ split text = done' ++ [line] := by
  cases done with
  | nil => exact absurd (List.cons.inj h).2 (split_ne_nil text)
  | cons d done' =>
    obtain ⟨rfl, hs⟩ := List.cons.inj h
    exact ⟨done', rfl, hs⟩

/-- The lines of two texts in a row. The last line of the first and the first of the second are one
line, unless the place between the texts is within a break. -/
theorem split_append (h : ¬ Cleaves a b) (ha : split a = done ++ [line])
    (hb : split b = first :: more) : split (a ++ b) = done ++ (line ++ first) :: more := by
  induction a using break_induction generalizing done line with
  | nil =>
    obtain ⟨rfl, rfl⟩ : done = [] ∧ [] = line := by simpa using List.append_eq_cons_iff.mp ha.symm
    exact hb
  | pair rest ih =>
    obtain ⟨done', rfl, hs⟩ := eq_cons_of_break ha
    have hr := ih (fun hr => h (cleaves_cons (cleaves_cons hr))) hs
    simp [hr]
  | single rest hn ih =>
    rw [split_cr hn] at ha
    obtain ⟨done', rfl, hs⟩ := eq_cons_of_break ha
    have hr := ih (fun hr => h (cleaves_cons hr)) hs
    simp [split_cr (head?_append_ne h hn), hr]
  | other c rest hc ih =>
    have hcl : ¬ Cleaves rest b := fun hr => h (cleaves_cons hr)
    by_cases hn : c = '\n'
    · subst hn
      obtain ⟨done', rfl, hs⟩ := eq_cons_of_break ha
      simp [ih hcl hs]
    · obtain ⟨d, ds, hs⟩ := List.exists_cons_of_ne_nil (split_ne_nil rest)
      rw [split_cons_of_eq hc hn hs] at ha
      cases done with
      | nil =>
        obtain ⟨rfl, rfl⟩ := List.cons.inj ha
        have hr : split (rest ++ b) = [] ++ (d ++ first) :: more := ih hcl hs
        exact split_cons_of_eq hc hn hr
      | cons d' done' =>
        obtain ⟨rfl, rfl⟩ := List.cons.inj ha
        have hr : split (rest ++ b) = (d :: done') ++ (line ++ first) :: more := ih hcl hs
        exact split_cons_of_eq hc hn hr

/-- The lines of a text before and up to the one that it ends in, and where that one starts: behind
the last break, or else where the text found the line. -/
theorem last_split (n start read : Nat) (text : List Char) :
    ∃ done line, split text = done ++ [line] ∧ (last n start read text).1 = n + done.length ∧
      (last n start read text).2 + line.length =
        (if done = [] then start else read) + text.length := by
  induction text using break_induction generalizing n start read with
  | nil => exact ⟨[], [], rfl, rfl, rfl⟩
  | pair rest ih =>
    obtain ⟨done, line, hs, hl, hw⟩ := ih (n + 1) (read + 2) (read + 2)
    refine ⟨[] :: done, line, by simp [hs], by simp [hl]; omega, ?_⟩
    simp only [last_pair, hw, ite_self, reduceCtorEq, if_false, List.length_cons]
    omega
  | single rest hn ih =>
    obtain ⟨done, line, hs, hl, hw⟩ := ih (n + 1) (read + 1) (read + 1)
    rw [last_cr hn]
    refine ⟨[] :: done, line, by simp [split_cr hn, hs], by simp [hl]; omega, ?_⟩
    simp only [hw, ite_self, reduceCtorEq, if_false, List.length_cons]
    omega
  | other c rest hc ih =>
    by_cases hn : c = '\n'
    · subst hn
      obtain ⟨done, line, hs, hl, hw⟩ := ih (n + 1) (read + 1) (read + 1)
      refine ⟨[] :: done, line, by simp [hs], by simp [hl]; omega, ?_⟩
      simp only [last_newline, hw, ite_self, reduceCtorEq, if_false, List.length_cons]
      omega
    · obtain ⟨done, line, hs, hl, hw⟩ := ih n start (read + 1)
      rw [last_cons hc hn]
      cases done with
      | nil =>
        refine ⟨[], c :: line, split_cons_of_eq hc hn hs, hl, ?_⟩
        simp only [if_true, List.length_cons] at hw ⊢
        omega
      | cons d done =>
        refine ⟨(c :: d) :: done, line, split_cons_of_eq hc hn hs, hl, ?_⟩
        simp only [reduceCtorEq, if_false, List.length_cons] at hw ⊢
        omega

end Lines

variable {source : String} {s : Nat} {c : Char} {rest : List Char} {kw : Bool} {e : LexError}

/-- A position counts the lines before it, and the characters of its line before it. -/
theorem positionAt_split (hs : s ≤ source.length) :
    ∃ done line, Lines.split (source.toList.take s) = done ++ [line] ∧
      (positionAt source s).line = done.length + 1 ∧
      (positionAt source s).column = line.length + 1 := by
  obtain ⟨done, line, hl, hn, hw⟩ := Lines.last_split 1 0 0 (source.toList.take s)
  have hlen : (source.toList.take s).length = s := by
    rw [List.length_take, String.length_toList]
    omega
  rw [ite_self, hlen] at hw
  refine ⟨done, line, hl, ?_, ?_⟩
  · simp only [positionAt, Int.toNat_natCast, hn]
    omega
  · simp only [positionAt, Int.toNat_natCast]
    omega

/-- A cut that is not within a break is in one line, and its position is that of the cut in that
line. -/
theorem positionAt_cut (hs : s ≤ source.length)
    (hc : ¬ Lines.Cleaves (source.toList.take s) (source.toList.drop s)) :
    ∃ done line first more, Lines.split (source.toList.take s) = done ++ [line] ∧
      Lines.split (source.toList.drop s) = first :: more ∧
      Lines.split source.toList = done ++ (line ++ first) :: more ∧
      (positionAt source s).line = done.length + 1 ∧
      (positionAt source s).column = line.length + 1 := by
  obtain ⟨done, line, hl, hline, hcolumn⟩ := positionAt_split hs
  obtain ⟨first, more, hf⟩ := List.exists_cons_of_ne_nil (Lines.split_ne_nil (source.toList.drop s))
  have hw := Lines.split_append hc hl hf
  rw [List.take_append_drop] at hw
  exact ⟨done, line, first, more, hl, hf, hw, hline, hcolumn⟩

/-- The position of a character that is not of a break leads to that character in the lines. -/
theorem exists_place (hd : source.toList.drop s = c :: rest) (hc : c ∉ newlines) :
    ∃ (l k : Nat) (line : String),
      (positionAt source s).line = l + 1 ∧ (positionAt source s).column = k + 1 ∧
      (splitLines source)[l]? = some line ∧ line.toList[k]? = some c := by
  obtain ⟨hn, hr⟩ : c ≠ '\n' ∧ c ≠ '\r' := by simpa [newlines] using hc
  have hs : s ≤ source.length := Nat.le_of_lt (Lexer.lt_length_of_drop hd)
  have hcl : ¬ Lines.Cleaves (source.toList.take s) (source.toList.drop s) := fun h => by
    simpa [hd, hn] using h.2
  obtain ⟨done, line, first, more, -, hf, hw, hline, hcolumn⟩ := positionAt_cut hs hcl
  obtain ⟨d, ds, hrest⟩ := List.exists_cons_of_ne_nil (Lines.split_ne_nil rest)
  rw [hd, Lines.split_cons_of_eq hr hn hrest] at hf
  obtain ⟨rfl, rfl⟩ := List.cons.inj hf
  refine ⟨done.length, line.length, String.ofList (line ++ c :: d), hline, hcolumn, ?_, ?_⟩
  · simp [splitLines, hw]
  · simp

/-! ### Errors -/

theorem not_mem_newlines_of_barren (h : Barren kw (c :: rest)) : c ∉ newlines := by
  intro hc
  have hl : Lexeme kw .newline [c] := .breaks (by simp) (by simpa using hc)
  exact h _ _ hl (by simp)

/-- What lexing fails at is a character in one of the lines. -/
theorem place_of_tokenize (h : tokenize source kw = .error (.lexical e)) :
    ∃ (c : Char) (l k : Nat) (line : String),
      0 ≤ e.offset ∧ source.toList[e.offset.toNat]? = some c ∧
      e.position.line = l + 1 ∧ e.position.column = k + 1 ∧
      (splitLines source)[l]? = some line ∧ line.toList[k]? = some c := by
  cases lexed_of_tokenize h with
  | @stopped s c rest hd hb =>
    obtain ⟨l, k, line, hl, hk, hline, hc⟩ := exists_place hd (not_mem_newlines_of_barren hb)
    have hs : source.toList[s]? = some c := by
      rw [← List.head?_drop, hd]
      rfl
    exact ⟨c, l, k, line, Int.natCast_nonneg s, hs, hl, hk, hline, hc⟩

end TokenStream
