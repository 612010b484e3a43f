import Mathlib.Data.List.Forall2
import TokenStream.Proofs.Breaks
import TokenStream.Proofs.Junction
import TokenStream.Proofs.Stream

/-!
Lexing with single breaks. A run of breaks stays a run, a break in a literal stays in it whether it
is escaped or not, and no token or error is next to half a break. So what a reader sees of a text
does not depend on how its lines end.
-/
namespace TokenStream

open Lines (Cleaves)

variable {kw : Bool} {kind : TokenKind} {c quote : Char} {escaped : Bool}
  {text word rest tail : List Char}

/-! ### Literals -/

theorem head_of_literalTail (h : Lexer.literalTail quote escaped text = some tail) :
    tail.head? = text.head? := by
  cases text with
  | nil => cases escaped <;> simp [Lexer.literalTail] at h
  | cons c rest =>
    rw [literalTail_cons] at h
    split at h
    · obtain rfl : [c] = tail := by simpa using h
      rfl
    · obtain ⟨tail, -, rfl⟩ := by simpa using h
      rfl

/-- Escaped or not, a break is passed. -/
theorem literalTail_newline (hc : c ∈ newlines) (hq : quote ∉ newlines) :
    Lexer.literalTail quote escaped (c :: rest) =
      (Lexer.literalTail quote false rest).map (c :: ·) := by
  have hb : c ≠ '\\' := by
    rintro rfl
    revert hc
    decide
  have hn : c ≠ quote := by
    rintro rfl
    exact hq hc
  simp [literalTail_cons, hb, hn]

theorem literalTail_normalize (hq : quote ∉ newlines) (text : List Char) :
    Lexer.literalTail quote escaped (Lines.normalize text) =
      (Lexer.literalTail quote escaped text).map Lines.normalize := by
  have hr : '\r' ∈ newlines := by decide
  have hl : '\n' ∈ newlines := by decide
  induction text using Lines.break_induction generalizing escaped with
  | nil => cases escaped <;> rfl
  | pair rest ih =>
    rw [Lines.normalize_pair, literalTail_newline hl hq, literalTail_newline hr hq,
      literalTail_newline hl hq, ih]
    cases Lexer.literalTail quote false rest <;> rfl
  | single rest hn ih =>
    rw [Lines.normalize_cr hn, literalTail_newline hl hq, literalTail_newline hr hq, ih]
    cases ht : Lexer.literalTail quote false rest with
    | none => rfl
    | some tail =>
      rw [← head_of_literalTail ht] at hn
      exact congrArg some (Lines.normalize_cr hn).symm
  | other c rest hc ih =>
    have hn : ∀ tail, Lines.normalize (c :: tail) = c :: Lines.normalize tail := fun _ =>
      Lines.normalize_cons hc
    rw [hn, literalTail_cons, literalTail_cons, ih]
    split
    · exact congrArg some (hn []).symm
    · cases Lexer.literalTail quote (!escaped && decide (c = '\\')) rest with
      | none => rfl
      | some tail => exact congrArg some (hn tail).symm

/-! ### Tokens -/

theorem quote_not_mem_newlines (h : (quote, kind) ∈ quotes) : quote ∉ newlines := by
  have : ∀ entry ∈ quotes, entry.1 ∉ newlines := by decide
  exact this _ h

theorem second_not_mem_newlines {first : Char} {seconds : List (Char × TokenKind)}
    (ho : (first, seconds) ∈ operators) (hc : (c, kind) ∈ seconds) : c ∉ newlines := by
  have : ∀ entry ∈ operators, ∀ second ∈ entry.2, second.1 ∉ newlines := by decide
  exact this _ ho _ hc

theorem tests_of_mem_newlines (hc : c ∈ newlines) :
    isSpace c = false ∧ isIdentStart c = false ∧ isDigit c = false := by
  simp [← Bool.not_eq_true, ← charClass_eq_space_iff, ← charClass_eq_letter_iff,
    ← charClass_eq_digit_iff, charClass_of_mem_newlines hc]

/-- A break in a token is in a run of breaks or in a literal. -/
theorem lexeme_of_mem_newlines (h : Lexeme kw kind word) (hm : c ∈ word) (hc : c ∈ newlines) :
    (kind = .newline ∧ ∀ d ∈ word, d ∈ newlines) ∨
      ∃ quote body, (quote, kind) ∈ quotes ∧ LiteralBody quote body ∧
        word = quote :: (body ++ [quote]) := by
  have hn := charClass_of_mem_newlines hc
  have hs := tests_of_mem_newlines hc
  cases h with
  | spaces _ h => simpa [hs] using h _ hm
  | tabs _ h =>
    obtain rfl := h _ hm
    simp [charClass_eq_tab_iff.mpr rfl] at hn
  | breaks _ h => exact .inl ⟨rfl, h⟩
  | literal hq hb => exact .inr ⟨_, _, hq, hb, rfl⟩
  | keyword hf h | identifier hf h =>
    rcases List.mem_cons.mp hm with rfl | hm
    · simp [hs] at hf
    · simpa [isIdentChar, hs] using h _ hm
  | digits _ h => simpa [hs] using h _ hm
  | operator ha hb =>
    obtain rfl | rfl := by simpa using hm
    · simp [charClass_of_mem_operators ha] at hn
    · exact absurd hc (second_not_mem_newlines ha hb)
  | mark h =>
    obtain rfl := List.mem_singleton.mp hm
    simp [charClass_of_mem_symbols h] at hn

theorem lexeme_normalize (h : Lexeme kw kind word) : Lexeme kw kind (Lines.normalize word) := by
  by_cases hm : '\r' ∈ word
  · obtain ⟨rfl, hn⟩ | ⟨quote, body, hq, hb, rfl⟩ := lexeme_of_mem_newlines h hm (by decide)
    · refine .breaks (mt Lines.normalize_eq_nil_iff.mp (lexeme_ne_nil h)) ?_
      intro c hc
      rcases Lines.mem_of_mem_normalize hc with hc | rfl
      · exact hn c hc
      · decide
    · have hqn := quote_not_mem_newlines hq
      have hr : quote ≠ '\r' := by
        rintro rfl
        exact hqn (by decide)
      have hn := @literalTail_normalize quote false hqn (body ++ [quote])
      rw [literalTail_of_body hb (quote_ne_backslash hq) [], Option.map_some] at hn
      obtain ⟨body', hb', he, -⟩ := exists_body_of_literalTail hn
      rw [Lines.normalize_cons hr, he]
      exact .literal hq hb'
  · rwa [Lines.normalize_of_not_mem hm]

/-- Between two tokens there is no half of a break. -/
theorem not_cleaves_of_longest (h : Longest kw kind word (word ++ rest)) :
    ¬ Cleaves word rest := by
  rintro ⟨hr, hn⟩
  obtain ⟨hl, he⟩ := longest_append_iff.mp h
  apply he _ hn
  obtain ⟨rfl, hb⟩ | ⟨quote, body, hq, -, rfl⟩ :=
    lexeme_of_mem_newlines hl (List.mem_of_getLast? hr) (by decide)
  · refine ⟨.newline, .breaks (by simp) ?_⟩
    intro c hc
    rcases List.mem_append.mp hc with hc | hc
    · exact hb c hc
    · obtain rfl := List.mem_singleton.mp hc
      decide
  · rw [← List.cons_append, List.getLast?_concat] at hr
    obtain rfl := Option.some.inj hr
    exact (quote_not_mem_newlines hq (by decide)).elim

/-- A break joins only a run of breaks. -/
theorem joins_newline_iff {t : Token} (hc : c ∈ newlines) : Joins t c ↔ t.kind = .newline := by
  constructor
  · intro h
    obtain ⟨hs, hi, hd⟩ := tests_of_mem_newlines hc
    cases h with
    | spaces _ h => simp [hs] at h
    | tabs _ h =>
      subst h
      exact absurd hc (by decide)
    | breaks hk => exact hk
    | word _ _ h => simp [isIdentChar, hi, hd] at h
    | digits _ h => simp [hd] at h
    | operator _ ho h => exact absurd hc (second_not_mem_newlines ho h)
  · intro hk
    exact .breaks hk hc

/-- What does not join a token does not join it when breaks are single either. -/
theorem joins_of_normalize {start stop start' stop' : Int}
    (h : Joins ⟨kind, String.ofList (Lines.normalize word), start, stop⟩ c) :
    Joins ⟨kind, String.ofList word, start', stop'⟩ c := by
  have hn : '\n' ∈ newlines := by decide
  cases h with
  | spaces hk hc => exact .spaces hk hc
  | tabs hk hc => exact .tabs hk hc
  | breaks hk hc => exact .breaks hk hc
  | digits hk hc => exact .digits hk hc
  | @word first more ht hf hc =>
    rw [String.toList_ofList] at ht
    obtain ⟨d, rest, rfl, ⟨rfl, -⟩ | ⟨-, rfl⟩⟩ := Lines.cons_of_normalize_eq_cons ht
    · exact .word String.toList_ofList hf hc
    · simp [tests_of_mem_newlines hn] at hf
  | @operator first seconds kind' ht ho hc =>
    rw [String.toList_ofList] at ht
    obtain ⟨d, rest, rfl, ⟨rfl, hr⟩ | ⟨-, rfl⟩⟩ := Lines.cons_of_normalize_eq_cons ht
    · obtain rfl := Lines.normalize_eq_nil_iff.mp hr
      exact .operator String.toList_ofList ho hc
    · have : ∀ entry ∈ operators, entry.1 ≠ '\n' := by decide
      exact absurd rfl (this _ ho)

theorem longest_normalize (h : Longest kw kind word (word ++ rest)) :
    Longest kw kind (Lines.normalize word) (Lines.normalize (word ++ rest)) := by
  have hl := lexeme_normalize h.lexeme
  rw [Lines.normalize_append (not_cleaves_of_longest h), longest_append_iff]
  refine ⟨hl, ?_⟩
  intro c hc he
  rw [← @joins_iff_extends _ _ _ 0 0 _ hl] at he
  have hj := @joins_of_normalize _ _ _ 0 0 0 0 he
  obtain ⟨more, hm⟩ := List.head?_eq_some_iff.mp hc
  obtain ⟨d, more', rfl, hd⟩ := Lines.cons_of_normalize_eq_cons hm
  apply (longest_append_iff.mp h).2 d rfl
  rw [← @joins_iff_extends _ _ _ 0 0 _ h.lexeme]
  rcases hd with ⟨rfl, -⟩ | ⟨rfl, rfl⟩
  · exact hj
  · have hk := (joins_newline_iff (by decide)).mp hj
    exact (joins_newline_iff (by decide)).mpr hk

/-- Where no token starts, none starts when breaks are single. -/
theorem barren_normalize (h : Barren kw (c :: rest)) :
    Lines.normalize (c :: rest) = c :: Lines.normalize rest ∧
      Barren kw (c :: Lines.normalize rest) := by
  have hn : c ≠ '\r' := by
    rintro rfl
    have hl : Lexeme kw .newline ['\r'] := .breaks (by simp) (by simp [newlines])
    exact h _ _ hl (by simp)
  refine ⟨Lines.normalize_cons hn, ?_⟩
  rw [barren_cons_iff] at h ⊢
  refine h.imp_right ?_
  rintro ⟨kind, hq, ht⟩
  have ht' := @literalTail_normalize c false (quote_not_mem_newlines hq) rest
  rw [ht, Option.map_none] at ht'
  exact ⟨kind, hq, ht'⟩

/-! ### Streams -/

/-- What a token is when breaks are single. -/
def Token.Matches (t u : Token) : Prop := u.kind = t.kind ∧ u.text = normalizeBreaks t.text

/-- Two errors that a reader cannot tell apart. -/
structure LexError.Alike (e e' : LexError) : Prop where
  fault : e'.fault = e.fault
  line : e'.position.line = e.position.line
  column : e'.position.column = e.position.column
  snippet : ∀ filename, e'.snippet filename = e.snippet filename

/-- How the stream of a source ends, and how it ends when breaks are single. -/
inductive EndAlike (source : String) : Option Failure → Option Failure → Prop
  | finished : EndAlike source none none
  | failed {c : Char} {s : Nat} {e' : LexError} (h : LexError.Alike ⟨blame c, s, source⟩ e') :
    EndAlike source (some (.lexical ⟨blame c, s, source⟩)) (some (.lexical e'))

variable {source : String} {s : Nat} {tokens : List Token} {ending : Option Failure}

theorem alike_normalizeBreaks {fault : Fault}
    (h : ¬ Cleaves (source.toList.take s) (source.toList.drop s)) (hs : s ≤ source.length) :
    LexError.Alike ⟨fault, s, source⟩
      ⟨fault, (Lines.normalize (source.toList.take s)).length, normalizeBreaks source⟩ := by
  obtain ⟨hl, hc⟩ := positionAt_normalizeBreaks h hs
  refine ⟨rfl, hl, hc, ?_⟩
  intro filename
  simp [LexError.snippet, LexError.underline, LexError.sourceLine, LexError.position,
    LexError.message, hl, hc, splitLines_normalizeBreaks]

/-- The text with single breaks is cut at the same places. -/
theorem drop_normalizeBreaks (hc : ¬ Cleaves (source.toList.take s) (source.toList.drop s)) :
    (normalizeBreaks source).toList.drop (Lines.normalize (source.toList.take s)).length =
      Lines.normalize (source.toList.drop s) := by
  have hn := Lines.normalize_append hc
  rw [List.take_append_drop] at hn
  rw [normalizeBreaks, String.toList_ofList, hn, List.drop_left]

theorem not_cleaves_of_append (hc : ¬ Cleaves text (word ++ rest)) (hw : word ≠ []) :
    ¬ Cleaves text word := by
  rintro ⟨hr, hn⟩
  exact hc ⟨hr, by rwa [List.head?_append_of_ne_nil _ hw]⟩

theorem not_cleaves_append (hc : ¬ Cleaves word rest) (hw : word ≠ []) :
    ¬ Cleaves (text ++ word) rest := by
  rintro ⟨hr, hn⟩
  exact hc ⟨by rwa [List.getLast?_append_of_ne_nil _ hw] at hr, hn⟩

theorem stream_normalize (h : Lexer.Stream kw source s tokens ending)
    (hc : ¬ Cleaves (source.toList.take s) (source.toList.drop s)) :
    ∃ tokens' ending',
      Lexer.Stream kw (normalizeBreaks source)
        (Lines.normalize (source.toList.take s)).length tokens' ending' ∧
      List.Forall₂ Token.Matches tokens tokens' ∧ EndAlike source ending ending' := by
  induction h with
  | finished =>
    have hl : (Lines.normalize (source.toList.take source.length)).length =
        (normalizeBreaks source).length := by
      rw [List.take_of_length_le (Nat.le_of_eq String.length_toList), normalizeBreaks,
        String.length_ofList]
    rw [hl]
    exact ⟨[], none, .finished, .nil, .finished⟩
  | @token s kind word tokens ending h _ ih =>
    obtain ⟨rest, hr⟩ := h.starts
    have hw := lexeme_ne_nil h.lexeme
    have hd : source.toList.drop (s + word.length) = rest := by
      rw [← List.drop_drop, ← hr, List.drop_left]
    have ht : source.toList.take (s + word.length) = source.toList.take s ++ word := by
      rw [List.take_add, ← hr, List.take_left]
    rw [← hr] at h hc
    have hcw := not_cleaves_of_append hc hw
    -- The end of the token is not within a break, so the rest of the stream starts well too.
    rw [hd, ht] at ih
    obtain ⟨tokens', ending', hs', hm, he⟩ :=
      ih (not_cleaves_append (not_cleaves_of_longest h) hw)
    rw [Lines.normalize_append hcw, List.length_append] at hs'
    have h' := longest_normalize h
    rw [hr, ← drop_normalizeBreaks (hr ▸ hc)] at h'
    refine ⟨_ :: tokens', ending', .token h' hs', .cons ⟨rfl, ?_⟩ hm, he⟩
    simp [normalizeBreaks]
  | @failed s c rest hd hb =>
    have hd' := drop_normalizeBreaks hc
    obtain ⟨hn, hb'⟩ := barren_normalize hb
    rw [hd, hn] at hd'
    have hs : s ≤ source.length := Nat.le_of_lt (Lexer.lt_length_of_drop hd)
    exact ⟨[], _, .failed hd' hb', .nil, .failed (alike_normalizeBreaks hc hs)⟩

/-- The two streams of a text, as it is and with single breaks, from its start. -/
theorem tokenize_alike (source : String) (kw : Bool) :
    ∃ tokens tokens' ending ending',
      tokenize source kw = allOrFailure tokens ending ∧
      tokenize (normalizeBreaks source) kw = allOrFailure tokens' ending' ∧
      List.Forall₂ Token.Matches tokens tokens' ∧ EndAlike source ending ending' := by
  have hs := Lexer.stream_drain source kw
  obtain ⟨tokens', ending', hs', hm, he⟩ := stream_normalize hs Lines.not_cleaves_nil
  exact ⟨_, _, _, _, tokenize_of_stream hs, tokenize_of_stream hs', hm, he⟩

/-- Lexing a text with single breaks gives the same, but for the breaks in the texts of tokens. -/
theorem tokenize_normalizeBreaks (source : String) (keywordOperators : Bool) :
    match tokenize source keywordOperators, tokenize (normalizeBreaks source) keywordOperators with
    | .ok tokens, .ok tokens' => List.Forall₂ Token.Matches tokens tokens'
    | .error (.lexical e), .error (.lexical e') => e.Alike e'
    | _, _ => False := by
  obtain ⟨tokens, tokens', ending, ending', ht, ht', hm, he⟩ :=
    tokenize_alike source keywordOperators
  rw [ht, ht']
  cases he with
  | finished => exact hm
  | failed h => exact h

end TokenStream
