import Mathlib
import TokenStream.Proofs.Breaks
import TokenStream.Proofs.Quotation
import TokenStream.Token.Listing

/-!
Listings read back. The columns of a line end where a blank or the colon is, which no field has in
it, and the quoted text is all the rest; no line holds a break, whatever the text of its token.
-/
namespace TokenStream

namespace Listing

variable {t : Token} {a b : List Char} {c : Char} {n : Nat}

/-- What a line shows of a token, without the line feed at its end. -/
def row (t : Token) : List Char :=
  (alignRight 5 (toString t.start)).toList ++ ':' :: ((alignLeft 5 (toString t.stop)).toList ++
    ' ' :: ((alignLeft 26 t.kind.name).toList ++ ' ' :: Quoted.encode t.text.toList))

theorem toList_line (t : Token) : (line t).toList = row t ++ ['\n'] := by
  simp [line, row, quoted]

/-! ### Reading -/

def skipBlanks (text : List Char) : List Char := text.dropWhile (· == ' ')

/-- The part of a text before a character, and the part after it. -/
def cut (c : Char) (text : List Char) : List Char × List Char :=
  (text.takeWhile (· != c), (text.dropWhile (· != c)).drop 1)

def decodeRow (text : List Char) : Option Token := do
  let (start, text) := cut ':' (skipBlanks text)
  let (stop, text) := cut ' ' text
  let (name, text) := cut ' ' (skipBlanks text)
  return {
    kind := ← TokenKind.ofName? (String.ofList name)
    text := String.ofList (Quoted.decode (skipBlanks text))
    start := ← (String.ofList start).toInt?
    stop := ← (String.ofList stop).toInt? }

/-- The tokens that a listing shows. -/
def decode (text : String) : Option (List Token) :=
  (Lines.split text.toList).dropLast.mapM decodeRow

theorem cut_append (h : c ∉ a) : cut c (a ++ c :: b) = (a, b) := by
  have ha : ∀ d ∈ a, (d != c) = true := by
    intro d hd
    simp only [bne_iff_ne]
    rintro rfl
    exact h hd
  simp [cut, List.takeWhile_append_of_pos ha, List.dropWhile_append_of_pos ha]

theorem skipBlanks_replicate (h : a.head? ≠ some ' ') :
    skipBlanks (List.replicate n ' ' ++ a) = a := by
  induction n with
  | zero =>
    cases a with
    | nil => rfl
    | cons d a =>
      have hd : d ≠ ' ' := by simpa using h
      simp [skipBlanks, hd]
  | succ n ih =>
    rw [List.replicate_succ, List.cons_append]
    exact ih

theorem skipBlanks_alignRight {width : Nat} {text : String} (h : text.toList.head? ≠ some ' ')
    (hn : text ≠ "") : skipBlanks ((alignRight width text).toList ++ a) = text.toList ++ a := by
  have hh : (text.toList ++ a).head? ≠ some ' ' := by
    rwa [List.head?_append_of_ne_nil _ (by simpa using hn)]
  rw [alignRight, String.toList_append, String.toList_ofList, List.append_assoc]
  exact skipBlanks_replicate hh

/-- What fills a column on the right is skipped with the blank behind the column. -/
theorem cut_alignLeft {width : Nat} {text : String} (h : ' ' ∉ text.toList) :
    ∃ n, cut ' ' ((alignLeft width text).toList ++ ' ' :: a) =
      (text.toList, List.replicate n ' ' ++ a) := by
  refine ⟨width - text.length, ?_⟩
  have he : (alignLeft width text).toList ++ ' ' :: a =
      text.toList ++ ' ' :: (List.replicate (width - text.length) ' ' ++ a) := by
    rw [alignLeft, String.toList_append, String.toList_ofList, List.append_assoc, List.append_cons,
      ← List.replicate_succ', List.replicate_succ, List.cons_append]
  rw [he, cut_append h]

theorem toInt?_toString {z : Int} : (toString z).toInt? = some z := Int.toInt?_repr z

theorem head_toString {z : Int} : (toString z).toList.head? ≠ some ' ' := by
  intro h
  exact not_mem_toString (by decide) (by decide) (List.mem_of_head? h)

theorem head_alignLeft {width : Nat} {text : String} (h : ' ' ∉ text.toList) (hn : text ≠ "") :
    ((alignLeft width text).toList ++ a).head? ≠ some ' ' := by
  have hne : text.toList ≠ [] := by simpa using hn
  rw [alignLeft, String.toList_append, List.append_assoc, List.head?_append_of_ne_nil _ hne]
  intro hh
  exact h (List.mem_of_head? hh)

theorem ofName?_name (kind : TokenKind) : TokenKind.ofName? kind.name = some kind := by
  have : TokenKind.all.all fun kind => TokenKind.ofName? kind.name = some kind := by decide +kernel
  simpa using List.all_eq_true.mp this kind kind.mem_all

theorem name_ne_empty (kind : TokenKind) : kind.name ≠ "" := by
  cases kind <;> decide

/-- A name is made of capital letters and underscores. -/
theorem printable_name (kind : TokenKind) :
    ∀ c ∈ kind.name.toList, c ≠ ' ' ∧ Printable c := by
  have : TokenKind.all.all fun kind => kind.name.toList.all fun c => c ≠ ' ' ∧ Printable c := by
    decide +kernel
  simpa using List.all_eq_true.mp this kind kind.mem_all

theorem blank_not_mem_name (kind : TokenKind) : ' ' ∉ kind.name.toList :=
  fun h => (printable_name kind ' ' h).1 rfl

theorem decodeRow_row (t : Token) : decodeRow (row t) = some t := by
  have hb := blank_not_mem_name t.kind
  have hn := name_ne_empty t.kind
  have hstart : ':' ∉ (toString t.start).toList := not_mem_toString (by decide) (by decide)
  have hstop : ' ' ∉ (toString t.stop).toList := not_mem_toString (by decide) (by decide)
  obtain ⟨n, hs⟩ := @cut_alignLeft
    ((alignLeft 26 t.kind.name).toList ++ ' ' :: Quoted.encode t.text.toList) 5 _ hstop
  obtain ⟨n', hs'⟩ := @cut_alignLeft (Quoted.encode t.text.toList) 26 _ hb
  rw [decodeRow, row, skipBlanks_alignRight head_toString toString_ne_empty, cut_append hstart]
  simp only [hs, hs', skipBlanks_replicate (head_alignLeft hb hn),
    skipBlanks_replicate (Quoted.head_encode _), String.ofList_toList, toInt?_toString,
    ofName?_name, Quoted.decode_encode]
  rfl

/-! ### Printable characters -/

theorem printable_blank : Printable ' ' := printable_of_ascii (by decide) (by decide)

theorem printable_alignRight {width : Nat} {text : String} (h : ∀ c ∈ text.toList, Printable c) :
    ∀ c ∈ (alignRight width text).toList, Printable c := by
  intro c hc
  rw [alignRight, String.toList_append, String.toList_ofList] at hc
  rcases List.mem_append.mp hc with hc | hc
  · rw [List.eq_of_mem_replicate hc]
    exact printable_blank
  · exact h c hc

theorem printable_alignLeft {width : Nat} {text : String} (h : ∀ c ∈ text.toList, Printable c) :
    ∀ c ∈ (alignLeft width text).toList, Printable c := by
  intro c hc
  rw [alignLeft, String.toList_append, String.toList_ofList] at hc
  rcases List.mem_append.mp hc with hc | hc
  · exact h c hc
  · rw [List.eq_of_mem_replicate hc]
    exact printable_blank

theorem printable_row (t : Token) : ∀ c ∈ row t, Printable c := by
  intro c hc
  rcases List.mem_append.mp hc with hc | hc
  · exact printable_alignRight (printable_toString t.start) c hc
  rcases List.mem_cons.mp hc with rfl | hc
  · exact printable_of_ascii (by decide) (by decide)
  rcases List.mem_append.mp hc with hc | hc
  · exact printable_alignLeft (printable_toString t.stop) c hc
  rcases List.mem_cons.mp hc with rfl | hc
  · exact printable_blank
  rcases List.mem_append.mp hc with hc | hc
  · exact printable_alignLeft (fun c h => (printable_name t.kind c h).2) c hc
  rcases List.mem_cons.mp hc with rfl | hc
  · exact printable_blank
  · exact Quoted.printable_encode hc

/-! ### Lines -/

/-- The lines of a text, each up to the next end of a line. After the last there is no line. -/
def linesOf : List Char → List (List Char)
  | [] => []
  | '\r' :: '\n' :: rest => [] :: linesOf rest
  | c :: rest =>
    if c ∈ lineEnds then [] :: linesOf rest
    else
      match linesOf rest with
      | [] => [[c]]
      | line :: lines => (c :: line) :: lines

theorem linesOf_append (h : ∀ c ∈ a, Printable c) : linesOf (a ++ '\n' :: b) = a :: linesOf b := by
  induction a with
  | nil => rfl
  | cons c a ih =>
    obtain ⟨hc, ha⟩ := List.forall_mem_cons.mp h
    simp [linesOf, (ne_break_of_printable hc).1, not_mem_lineEnds hc, ih ha]

theorem split_append (h : ∀ c ∈ a, Printable c) :
    Lines.split (a ++ '\n' :: b) = a :: Lines.split b := by
  induction a with
  | nil => rfl
  | cons c a ih =>
    obtain ⟨hc, ha⟩ := List.forall_mem_cons.mp h
    obtain ⟨hr, hn⟩ := ne_break_of_printable hc
    rw [List.cons_append, Lines.split_cons hr hn, ih ha]

theorem toList_listing (tokens : List Token) :
    (listing tokens).toList = tokens.flatMap fun t => row t ++ ['\n'] := by
  induction tokens with
  | nil => rfl
  | cons t tokens ih =>
    have hl : listing (t :: tokens) = line t ++ listing tokens := by simp [listing]
    rw [hl, String.toList_append, toList_line, ih, List.flatMap_cons]

theorem split_listing (tokens : List Token) :
    Lines.split (listing tokens).toList = tokens.map row ++ [[]] := by
  rw [toList_listing]
  induction tokens with
  | nil => rfl
  | cons t tokens ih =>
    rw [List.flatMap_cons, List.append_assoc, List.singleton_append,
      split_append (printable_row t), ih]
    rfl

theorem linesOf_listing (tokens : List Token) :
    linesOf (listing tokens).toList = tokens.map row := by
  rw [toList_listing]
  induction tokens with
  | nil => rfl
  | cons t tokens ih =>
    rw [List.flatMap_cons, List.append_assoc, List.singleton_append,
      linesOf_append (printable_row t), ih]
    rfl

theorem mapM_decodeRow (tokens : List Token) : (tokens.map row).mapM decodeRow = some tokens := by
  induction tokens with
  | nil => rfl
  | cons t tokens ih => simp [List.mapM_cons, decodeRow_row, ih]

theorem decode_listing (tokens : List Token) : decode (listing tokens) = some tokens := by
  rw [decode, split_listing, List.dropLast_concat, mapM_decodeRow]

theorem count_listing (tokens : List Token) :
    (listing tokens).toList.count '\n' = tokens.length := by
  rw [toList_listing]
  induction tokens with
  | nil => rfl
  | cons t tokens ih =>
    have hn := newline_not_mem (printable_row t)
    simp [List.count_append, List.count_eq_zero_of_not_mem hn, ih]

end Listing
end TokenStream
