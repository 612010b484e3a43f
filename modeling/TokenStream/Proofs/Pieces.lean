import TokenStream.Proofs.Stream

/-!
Texts in pieces. A lexer cuts a text from the left into pieces, each the longest token of what is
left. Whether a piece ends where it does depends on it and on the one character behind it, so pieces
stay what they are when the text changes further on.
-/
namespace TokenStream

/-- A token apart from where it stands. -/
structure Piece where
  kind : TokenKind
  word : List Char

/-- The text of pieces that follow one another. -/
def spell (pieces : List Piece) : List Char := pieces.flatMap Piece.word

/-- The tokens of pieces that follow one another from an offset on. -/
def lay (start : Int) : List Piece → List Token
  | [] => []
  | p :: pieces =>
    ⟨p.kind, String.ofList p.word, start, start + p.word.length⟩ ::
      lay (start + p.word.length) pieces

/-- The lexer cuts off the pieces one after the other, and comes to the rest. -/
def CutBefore (keywordOperators : Bool) (rest : List Char) : List Piece → Prop
  | [] => True
  | p :: pieces =>
    Longest keywordOperators p.kind p.word (p.word ++ (spell pieces ++ rest)) ∧
      CutBefore keywordOperators rest pieces

/-- A rest that nothing can be cut off, and what is wrong with it unless it is empty. -/
inductive Stops (keywordOperators : Bool) : List Char → Option Fault → Prop
  | finished : Stops keywordOperators [] none
  | failed {c : Char} {rest : List Char} (h : Barren keywordOperators (c :: rest)) :
    Stops keywordOperators (c :: rest) (some (blame c))

/-- The pieces of a text, up to its end or up to a fault. -/
structure Cut (keywordOperators : Bool) (text : List Char) (pieces : List Piece)
    (rest : List Char) (fault : Option Fault) : Prop where
  text_eq : text = spell pieces ++ rest
  before : CutBefore keywordOperators rest pieces
  stops : Stops keywordOperators rest fault

variable {kw : Bool} {pieces pieces' : List Piece} {p : Piece} {text rest rest' : List Char}
  {fault : Option Fault} {start d : Int} {s : Nat} {source : String} {tokens : List Token}

@[simp] theorem spell_nil : spell [] = [] := rfl

@[simp] theorem spell_cons : spell (p :: pieces) = p.word ++ spell pieces := rfl

@[simp] theorem spell_append : spell (pieces ++ pieces') = spell pieces ++ spell pieces' :=
  List.flatMap_append

/-! ### Places -/

theorem lay_append :
    lay start (pieces ++ pieces') =
      lay start pieces ++ lay (start + (spell pieces).length) pieces' := by
  induction pieces generalizing start with
  | nil => simp [lay]
  | cons p pieces ih => simp [lay, ih, Int.add_assoc]

theorem lay_shift : (lay start pieces).map (Token.shift d) = lay (start + d) pieces := by
  induction pieces generalizing start with
  | nil => rfl
  | cons p pieces ih => simp [lay, ih, Token.shift, Int.add_right_comm]

/-- Tokens tell their pieces. -/
theorem eq_of_lay_eq (h : lay start pieces = lay start pieces') : pieces = pieces' := by
  induction pieces generalizing start pieces' with
  | nil =>
    cases pieces' with
    | nil => rfl
    | cons p' pieces' => simp [lay] at h
  | cons p pieces ih =>
    cases pieces' with
    | nil => simp [lay] at h
    | cons p' pieces' =>
      obtain ⟨kind, word⟩ := p
      obtain ⟨kind', word'⟩ := p'
      simp only [lay, List.cons.injEq, Token.mk.injEq, String.ofList_inj] at h
      obtain ⟨⟨rfl, rfl, -⟩, h⟩ := h
      rw [ih h]

/-- Where tokens are parted, their pieces are. -/
theorem lay_eq_append_iff {tokens' : List Token} :
    lay start pieces = tokens ++ tokens' ↔
      ∃ before after, pieces = before ++ after ∧ lay start before = tokens ∧
        lay (start + (spell before).length) after = tokens' := by
  constructor
  · intro h
    induction tokens generalizing start pieces with
    | nil => exact ⟨[], pieces, rfl, rfl, by simpa using h⟩
    | cons t tokens ih =>
      cases pieces with
      | nil => simp [lay] at h
      | cons p pieces =>
        obtain ⟨ht, h⟩ := List.cons.inj h
        obtain ⟨before, after, rfl, hb, ha⟩ := ih h
        refine ⟨p :: before, after, rfl, by rw [lay, ht, hb], ?_⟩
        rwa [spell_cons, List.length_append, Int.natCast_add, ← Int.add_assoc]
  · rintro ⟨before, after, rfl, rfl, rfl⟩
    exact lay_append

theorem lay_eq_singleton {t : Token} (h : lay start pieces = [t]) :
    ∃ p, pieces = [p] ∧ t = ⟨p.kind, String.ofList p.word, start, start + p.word.length⟩ := by
  match pieces with
  | [] => simp [lay] at h
  | [p] => exact ⟨p, rfl, (List.singleton_inj.mp h).symm⟩
  | _ :: _ :: _ => simp [lay] at h

theorem start_of_lay {t : Token} (h : (lay start pieces).head? = some t) : t.start = start := by
  cases pieces with
  | nil => simp [lay] at h
  | cons p pieces =>
    obtain rfl := by simpa [lay] using h
    rfl

theorem stop_of_lay {t : Token} (h : (lay start pieces).getLast? = some t) :
    t.stop = start + (spell pieces).length := by
  induction pieces generalizing start with
  | nil => simp [lay] at h
  | cons p pieces ih =>
    cases pieces with
    | nil =>
      obtain rfl := by simpa [lay] using h
      simp
    | cons p' pieces =>
      rw [lay, lay, List.getLast?_cons_cons] at h
      simp [ih h, Int.add_assoc]

/-! ### Cutting -/

theorem cutBefore_append :
    CutBefore kw rest (pieces ++ pieces') ↔
      CutBefore kw (spell pieces' ++ rest) pieces ∧ CutBefore kw rest pieces' := by
  induction pieces with
  | nil => simp [CutBefore]
  | cons p pieces ih => simp [CutBefore, ih, and_assoc]

/-- Pieces stay cut if the rest goes on with the same character, or is gone. -/
theorem cutBefore_of_head (h : CutBefore kw rest pieces)
    (hh : ∀ c, rest'.head? = some c → rest.head? = some c) : CutBefore kw rest' pieces := by
  induction pieces with
  | nil => trivial
  | cons p pieces ih =>
    obtain ⟨hl, hc⟩ := h
    rw [longest_append_iff] at hl
    refine ⟨longest_append_iff.mpr ⟨hl.1, ?_⟩, ih hc⟩
    intro c hc'
    apply hl.2
    cases hs : (spell pieces).head? with
    | none => simp_all
    | some d => simpa [hs] using hc'

theorem cut_append {before : List Piece} (hb : CutBefore kw text before)
    (h : Cut kw text pieces rest fault) :
    Cut kw (spell before ++ text) (before ++ pieces) rest fault where
  text_eq := by rw [h.text_eq, spell_append, List.append_assoc]
  before := cutBefore_append.mpr ⟨h.text_eq ▸ hb, h.before⟩
  stops := h.stops

/-! ### Streams -/

theorem exists_cut_of_stream {ending : Option Failure}
    (h : Lexer.Stream kw source s tokens ending) :
    ∃ pieces rest fault, Cut kw (source.toList.drop s) pieces rest fault := by
  induction h with
  | finished => exact ⟨[], [], none, Lexer.drop_length source, trivial, .finished⟩
  | failed hd hb => exact ⟨[], _, _, hd, trivial, .failed hb⟩
  | @token s kind word _ _ h _ ih =>
    obtain ⟨pieces, rest, fault, ht, hc, hs⟩ := ih
    obtain ⟨after, ha⟩ := h.starts
    have hd : source.toList.drop (s + word.length) = after := by
      rw [← List.drop_drop, ← ha, List.drop_left]
    obtain rfl : after = spell pieces ++ rest := hd.symm.trans ht
    rw [← ha] at h
    exact ⟨⟨kind, word⟩ :: pieces, rest, fault, by simp [← ha], ⟨h, hc⟩, hs⟩

/-- Every text has its pieces. -/
theorem exists_cut (kw : Bool) (source : String) :
    ∃ pieces rest fault, Cut kw source.toList pieces rest fault := by
  simpa using exists_cut_of_stream (Lexer.stream_drain source kw)

theorem exists_cut_of_longest {kind : TokenKind} {word : List Char}
    (h : Longest kw kind word text) :
    ∃ pieces rest fault, Cut kw text (⟨kind, word⟩ :: pieces) rest fault := by
  obtain ⟨behind, rfl⟩ := h.starts
  obtain ⟨pieces, rest, fault, hc⟩ := exists_cut kw (String.ofList behind)
  rw [String.toList_ofList] at hc
  have hb : CutBefore kw behind [⟨kind, word⟩] := ⟨h, trivial⟩
  exact ⟨pieces, rest, fault, by simpa using cut_append hb hc⟩

/-- What a stream ends with, if it comes to a fault at an offset. -/
def failureAt (source : String) (offset : Nat) (fault : Option Fault) : Option Failure :=
  fault.map fun fault => .lexical ⟨fault, offset, source⟩

theorem stream_of_cut (h : Cut kw (source.toList.drop s) pieces rest fault)
    (hs : s ≤ source.length) :
    Lexer.Stream kw source s (lay s pieces)
      (failureAt source (s + (spell pieces).length) fault) := by
  obtain ⟨ht, hc, he⟩ := h
  induction pieces generalizing s with
  | nil =>
    cases he with
    | finished =>
      have hl : source.length ≤ s := by
        simpa [String.length_toList] using List.drop_eq_nil_iff.mp ht
      obtain rfl : s = source.length := by omega
      exact .finished
    | failed hb => exact .failed ht hb
  | cons p pieces ih =>
    obtain ⟨hl, hc⟩ := hc
    have ht' : source.toList.drop (s + p.word.length) = spell pieces ++ rest := by
      rw [← List.drop_drop, ht, spell_cons, List.append_assoc, List.drop_left]
    have hs' : s + p.word.length ≤ source.length := by
      have := congrArg List.length ht
      simp only [List.length_drop, String.length_toList, spell_cons, List.length_append] at this
      omega
    have h := ih hs' ht' hc
    rw [spell_cons, List.append_assoc] at ht
    rw [← ht] at hl
    rw [spell_cons, List.length_append, ← Nat.add_assoc]
    exact .token hl h

/-- The pieces of a source tell what its lexer delivers. -/
theorem drain_of_cut (h : Cut kw source.toList pieces rest fault) :
    (Lexer.ofSource source kw).drain.tokens = lay 0 pieces ∧
      (Lexer.ofSource source kw).drain.failure =
        failureAt source (spell pieces).length fault := by
  have hs := stream_of_cut (s := 0) (by simpa using h) (Nat.zero_le _)
  rw [Nat.zero_add] at hs
  exact Lexer.stream_unique (Lexer.stream_drain source kw) hs

theorem tokenize_of_cut (h : Cut kw source.toList pieces rest fault) :
    tokenize source kw =
      allOrFailure (lay 0 pieces) (failureAt source (spell pieces).length fault) := by
  obtain ⟨ht, he⟩ := drain_of_cut h
  rw [tokenize_of_stream (Lexer.stream_drain source kw), ht, he]

/-- The tokens of a source are those of pieces that the lexer cuts and that leave nothing. -/
theorem tokenize_eq_ok_iff :
    tokenize source kw = .ok tokens ↔
      ∃ pieces, source.toList = spell pieces ∧ CutBefore kw [] pieces ∧ tokens = lay 0 pieces := by
  constructor
  · intro h
    obtain ⟨pieces, rest, fault, hc⟩ := exists_cut kw source
    rw [tokenize_of_cut hc] at h
    obtain ⟨ht, hb, hs⟩ := hc
    cases hs with
    | finished =>
      rw [List.append_nil] at ht
      exact ⟨pieces, ht, hb, (Except.ok.inj h).symm⟩
    | failed => exact nomatch h
  · rintro ⟨pieces, ht, hb, rfl⟩
    rw [← List.append_nil (spell pieces)] at ht
    exact tokenize_of_cut ⟨ht, hb, .finished⟩

theorem tokenize_lay_iff (hs : source.toList = spell pieces) :
    tokenize source kw = .ok (lay 0 pieces) ↔ CutBefore kw [] pieces := by
  rw [tokenize_eq_ok_iff]
  constructor
  · rintro ⟨pieces', -, hb, he⟩
    rwa [eq_of_lay_eq he]
  · intro hb
    exact ⟨pieces, hs, hb, rfl⟩

end TokenStream
