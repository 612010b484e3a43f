import TokenStream.Proofs.LineStructure
import TokenStream.Proofs.Quotation

/-!
Snippets. The last two rows of a snippet are the line of the source that is at fault and marks under
it, the first of which is under the character at fault. What a row holds of the message and of the
name of the file does not matter for that.
-/
namespace TokenStream

/-- The rows of a text: what its line feeds stand between. -/
def rows (text : String) : List (List Char) := text.toList.splitOn '\n'

/-- A row of marks: blanks, the bar at the index `bar`, and `count` carets behind `before` more blanks. -/
def marks (bar before count : Nat) : List Char :=
  List.replicate bar ' ' ++ '|' :: ' ' :: (List.replicate before ' ' ++ List.replicate count '^')

/-- A row of marks goes with the row above it: it has one bar, and carets from the index `first` on,
which are one or go up to where the row above ends. -/
structure Underlines (toEnd : Bool) (bar first : Nat) (row marks : List Char) : Prop where
  only : ∀ d ∈ marks, d ∈ [' ', '|', '^']
  bar_iff : ∀ i, marks[i]? = some '|' ↔ i = bar
  first_at : marks[first]? = some '^'
  first_le : ∀ i, marks[i]? = some '^' → first ≤ i
  line_end : toEnd = true →
    marks.length = row.length ∧ ∀ i, first ≤ i → i < marks.length → marks[i]? = some '^'
  single : toEnd = false → ∀ i, marks[i]? = some '^' → i = first

/-- The rows of a source line and of the marks that point at the character `c` in it. -/
structure PointsAt (e : LexError) (c : Char) (row marks : List Char) : Prop where
  line : (splitLines e.source)[e.position.line - 1]? = some e.sourceLine
  placed : Placed e.source e.offset e.sourceLine e.position.column
  row_eq : row = (toString e.position.line ++ " | " ++ e.sourceLine).toList
  bar_at : row[(toString e.position.line).length + 1]? = some '|'
  character_at :
    row[(toString e.position.line).length + 3 + (e.position.column - 1).toNat]? = some c
  underlines : Underlines e.fault.reachesLineEnd ((toString e.position.line).length + 1)
    ((toString e.position.line).length + 3 + (e.position.column - 1).toNat) row marks

variable {bar before count : Nat} {row : List Char} {e : LexError} {c : Char}
  {filename : String}

/-! ### Marks -/

theorem length_marks : (marks bar before count).length = bar + 2 + before + count := by
  simp [marks]
  omega

theorem getElem?_marks (i : Nat) :
    (marks bar before count)[i]? =
      if i = bar then some '|' else if i < bar + 2 + before then some ' '
      else if i < bar + 2 + before + count then some '^' else none := by
  unfold marks
  grind

theorem underlines_marks {toEnd : Bool} (hc : 0 < count)
    (hend : toEnd = true → row.length = bar + 2 + before + count)
    (hone : toEnd = false → count = 1) :
    Underlines toEnd bar (bar + 2 + before) row (marks bar before count) where
  only := by
    intro d hd
    obtain ⟨i, hi⟩ := List.mem_iff_getElem?.mp hd
    rw [getElem?_marks] at hi
    grind
  bar_iff := by
    intro i
    rw [getElem?_marks]
    grind
  first_at := by
    rw [getElem?_marks]
    grind
  first_le := by
    intro i hi
    rw [getElem?_marks] at hi
    grind
  line_end := by
    intro ht
    rw [length_marks]
    refine ⟨(hend ht).symm, ?_⟩
    intro i hf hl
    rw [getElem?_marks]
    grind
  single := by
    intro ht i hi
    rw [getElem?_marks, hone ht] at hi
    grind

/-! ### Rows -/

theorem rows_append (a b : String) : rows (a ++ "\n" ++ b) = rows a ++ rows b := by
  simp [rows, List.splitOn_append_cons_self]

theorem rows_of_not_mem {a : String} (h : '\n' ∉ a.toList) : rows a = [a.toList] :=
  List.splitOn_eq_singleton h

theorem newline_not_mem_sourceLine (e : LexError) : '\n' ∉ e.sourceLine.toList := by
  obtain ⟨line, hm, hl⟩ := List.mem_map.mp (List.mem_of_getElem? (getElem?_sourceLine e))
  rw [← hl, String.toList_ofList]
  exact Lines.newline_not_mem_split _ hm

theorem newline_not_mem_number (n : Nat) : '\n' ∉ (toString n).toList := by
  have h : '\n' ∉ (toString (n : Int)).toList := newline_not_mem (printable_toString n)
  exact h

namespace LexError

/-- The row that names the place. -/
def placeRow (e : LexError) (filename : String) : String :=
  let number := toString e.position.line
  spaces (number.length + 1) ++ "--> " ++ filename ++ ":" ++ number ++ ":" ++
    toString e.position.column

def barRow (e : LexError) : String :=
  spaces ((toString e.position.line).length + 1) ++ "|"

/-- The row of the line of the source. -/
def sourceRow (e : LexError) : String := toString e.position.line ++ " | " ++ e.sourceLine

def markRow (e : LexError) : String :=
  spaces ((toString e.position.line).length + 1) ++ "| " ++
    spaces (e.position.column - 1).toNat ++ carets e.underline

theorem toList_sourceRow (e : LexError) :
    e.sourceRow.toList =
      (toString e.position.line).toList ++ ' ' :: '|' :: ' ' :: e.sourceLine.toList := by
  simp [sourceRow]

theorem toList_markRow (e : LexError) :
    e.markRow.toList =
      marks ((toString e.position.line).length + 1) (e.position.column - 1).toNat e.underline := by
  simp [markRow, spaces, carets, marks]

theorem snippet_eq (e : LexError) (filename : String) :
    e.snippet filename =
      "error: " ++ e.message ++ "\n" ++ (e.placeRow filename ++ "\n" ++
        (e.barRow ++ "\n" ++ (e.sourceRow ++ "\n" ++ e.markRow))) := by
  unfold snippet placeRow barRow sourceRow markRow
  generalize e.message = message
  generalize toString e.position.line = number
  generalize e.position.column = column
  generalize e.sourceLine = line
  generalize e.underline = under
  -- As characters, so that the line feeds stand apart from what is before them.
  apply String.toList_injective
  simp [toString]

theorem newline_not_mem_barRow (e : LexError) : '\n' ∉ e.barRow.toList := by
  simp [barRow, spaces]

theorem newline_not_mem_sourceRow (e : LexError) : '\n' ∉ e.sourceRow.toList := by
  simpa [sourceRow, newline_not_mem_sourceLine] using newline_not_mem_number e.position.line

theorem newline_not_mem_markRow (e : LexError) : '\n' ∉ e.markRow.toList := by
  simp [markRow, spaces, carets]

theorem newline_not_mem_placeRow (e : LexError) (h : '\n' ∉ filename.toList) :
    '\n' ∉ (e.placeRow filename).toList := by
  have hl := newline_not_mem_number e.position.line
  have hc : '\n' ∉ (toString e.position.column).toList :=
    newline_not_mem (printable_toString e.position.column)
  unfold placeRow
  generalize toString e.position.line = number at hl
  generalize toString e.position.column = column at hc
  simp [spaces, h, hl, hc]

theorem rows_snippet (e : LexError) (filename : String) :
    rows (e.snippet filename) =
      rows ("error: " ++ e.message) ++ rows (e.placeRow filename) ++
        [e.barRow.toList, e.sourceRow.toList, e.markRow.toList] := by
  rw [snippet_eq, rows_append, rows_append, rows_append, rows_append,
    rows_of_not_mem e.newline_not_mem_barRow, rows_of_not_mem e.newline_not_mem_sourceRow,
    rows_of_not_mem e.newline_not_mem_markRow, List.append_assoc]
  rfl

end LexError

/-! ### Messages -/

theorem newline_not_mem_unclosed (kind : TokenKind) :
    '\n' ∉ (Fault.unclosed kind).message.toList := by
  have hl : ∀ label ∈ ["string", "char"], '\n' ∉ s!"unterminated {label} literal".toList := by
    decide
  unfold Fault.unclosed
  by_cases hk : kind = .stringLiteral
  · rw [if_pos hk]
    exact hl "string" (by simp)
  · rw [if_neg hk]
    exact hl "char" (by simp)

theorem blame_cases (c : Char) :
    (∃ kind, blame c = .unclosed kind) ∨ blame c = .unrecognized (String.ofList [c]) := by
  rw [blame]
  generalize quotes.lookup c = kind?
  cases kind? with
  | some kind => exact .inl ⟨kind, rfl⟩
  | none => exact .inr rfl

theorem newline_not_mem_unrecognized (characters : String) :
    '\n' ∉ (Fault.unrecognized characters).message.toList := by
  have hm : (Fault.unrecognized characters).message =
      "unrecognized character " ++ quoted characters := rfl
  have hq : (quoted characters).toList = Quoted.encode characters.toList := String.toList_ofList
  rw [hm, String.toList_append, hq]
  intro h
  rcases List.mem_append.mp h with h | h
  · exact absurd h (by decide)
  · exact newline_not_mem (fun d => Quoted.printable_encode) h

theorem newline_not_mem_blame (c : Char) : '\n' ∉ (blame c).message.toList := by
  rcases blame_cases c with ⟨kind, hb⟩ | hb
  · exact hb ▸ newline_not_mem_unclosed kind
  · exact hb ▸ newline_not_mem_unrecognized _

/-! ### What the marks point at -/

theorem getElem?_bar (number : String) (text : List Char) :
    (number.toList ++ ' ' :: '|' :: ' ' :: text)[number.length + 1]? = some '|' := by
  rw [← String.length_toList, List.getElem?_append_right (by omega), Nat.add_sub_cancel_left]
  rfl

theorem getElem?_behind_bar (number : String) (text : List Char) (k : Nat) :
    (number.toList ++ ' ' :: '|' :: ' ' :: text)[number.length + 3 + k]? = text[k]? := by
  rw [← String.length_toList, Nat.add_assoc, List.getElem?_append_right (by omega),
    Nat.add_sub_cancel_left, Nat.add_comm]
  rfl

theorem length_sourceRow (e : LexError) :
    e.sourceRow.toList.length = (toString e.position.line).length + 3 + e.sourceLine.length := by
  rw [LexError.toList_sourceRow, List.length_append, String.length_toList]
  simp only [List.length_cons, String.length_toList]
  omega

theorem pointsAt_markRow (h0 : 0 ≤ e.offset) (hc : e.source.toList[e.offset.toNat]? = some c)
    (hr : c ≠ '\r') (hn : c ≠ '\n') : PointsAt e c e.sourceRow.toList e.markRow.toList := by
  have hlt := (List.getElem?_eq_some_iff.mp hc).1
  rw [String.length_toList] at hlt
  have hproper : Proper e.source e.offset := by
    refine ⟨h0, by omega, ?_⟩
    rintro ⟨-, hhead⟩
    rw [List.head?_drop, hc] at hhead
    exact hn (Option.some.inj hhead)
  have hline := getElem?_sourceLine e
  obtain ⟨line, hl, hplaced⟩ := exists_placed hproper
  obtain rfl := Option.some.inj (hl.symm.trans hline)
  have hat := hplaced.character c hc (by simp [newlines, hr, hn])
  have hone : 1 ≤ e.position.column := hplaced.one_le
  have hcolumn : (e.position.column - 1).toNat < e.sourceLine.length := by
    have hlt := (List.getElem?_eq_some_iff.mp hat).1
    rwa [String.length_toList] at hlt
  refine ⟨hline, hplaced, rfl, ?_, ?_, ?_⟩
  · rw [LexError.toList_sourceRow]
    exact getElem?_bar _ _
  · rw [LexError.toList_sourceRow, getElem?_behind_bar]
    exact hat
  · have hrow := length_sourceRow e
    have hfirst : (toString e.position.line).length + 3 =
        (toString e.position.line).length + 1 + 2 := rfl
    rw [LexError.toList_markRow, hfirst]
    apply underlines_marks
    · unfold LexError.underline
      split <;> omega
    · intro hend
      rw [hrow, LexError.underline, if_pos hend]
      omega
    · intro hend
      rw [LexError.underline, hend]
      rfl

/-- The last two rows of a snippet point at the character at fault, and the snippet of an error that
lexing fails with has five rows. -/
theorem snippet_points_at_fault :
    (∀ (e : LexError) (filename : String) (c : Char), 0 ≤ e.offset →
      e.source.toList[e.offset.toNat]? = some c → c ≠ '\r' → c ≠ '\n' →
      ∃ above row marks, rows (e.snippet filename) = above ++ [row, marks] ∧
        PointsAt e c row marks) ∧
    ∀ (source : String) (keywordOperators : Bool) (failure : Failure),
      tokenize source keywordOperators = .error failure →
      ∃ e c, failure = .lexical e ∧ e.source = source ∧ 0 ≤ e.offset ∧
        source.toList[e.offset.toNat]? = some c ∧ c ≠ '\r' ∧ c ≠ '\n' ∧
        ∀ filename : String, '\n' ∉ filename.toList → (rows (e.snippet filename)).length = 5 := by
  constructor
  · intro e filename c h0 hc hr hn
    refine ⟨rows ("error: " ++ e.message) ++ rows (e.placeRow filename) ++ [e.barRow.toList], _, _,
      ?_, pointsAt_markRow h0 hc hr hn⟩
    rw [LexError.rows_snippet, List.append_cons]
  · intro source keywordOperators failure h
    cases lexed_of_tokenize h with
    | @stopped s c rest hd hb =>
      obtain ⟨hc, -⟩ := of_drop_eq_cons hd
      have hnl : c ≠ '\n' ∧ c ≠ '\r' := by
        simpa [newlines] using not_mem_newlines_of_barren hb
      refine ⟨_, c, rfl, rfl, Int.natCast_nonneg s, hc, hnl.2, hnl.1, ?_⟩
      intro filename hf
      have hm : '\n' ∉ ("error: " ++ (blame c).message).toList := by
        simpa using newline_not_mem_blame c
      rw [LexError.rows_snippet, rows_of_not_mem (LexError.newline_not_mem_placeRow _ hf),
        LexError.message, rows_of_not_mem hm]
      rfl

/-- The error of a literal that is never closed and goes on over the end of its line. -/
theorem snippet_points_at_fault_of_open_literal :
    let e : LexError := ⟨.unclosed .charLiteral, 0, "'a\r\nb"⟩
    0 ≤ e.offset ∧ e.source.toList[e.offset.toNat]? = some '\'' ∧
      (∃ above row marks, rows (e.snippet "notes") = above ++ [row, marks] ∧
        PointsAt e '\'' row marks) ∧
      tokenize e.source true = .error (.lexical e) ∧ '\n' ∉ "notes".toList ∧
      (rows (e.snippet "notes")).length = 5 := by
  intro e
  have h0 : 0 ≤ e.offset := Int.le_refl 0
  have hc : e.source.toList[e.offset.toNat]? = some '\'' := by decide
  have hd : e.source.toList.drop 0 = ['\'', 'a', '\r', '\n', 'b'] := by decide
  have hb : Barren true ['\'', 'a', '\r', '\n', 'b'] :=
    barren_cons_iff.mpr (.inr ⟨.charLiteral, by decide, by decide⟩)
  have ht : tokenize e.source true = .error (.lexical e) := tokenize_of_stream (.failed hd hb)
  have hf : '\n' ∉ "notes".toList := by decide
  have hp := snippet_points_at_fault.1 e "notes" _ h0 hc (by decide) (by decide)
  obtain ⟨e', _, he, -, -, -, -, -, hrows⟩ := snippet_points_at_fault.2 e.source true _ ht
  obtain rfl : e = e' := Failure.lexical.inj he
  exact ⟨h0, hc, hp, ht, hf, hrows "notes" hf⟩

end TokenStream
