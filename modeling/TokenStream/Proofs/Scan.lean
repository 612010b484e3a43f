import TokenStream.Proofs.Lexeme

/-!
One scan: it takes the longest token that the text starts with, and fails only where the text
starts with no token.
-/
namespace TokenStream

/-- What is wrong with a character that no token starts with. -/
def blame (c : Char) : Fault :=
  match quotes.lookup c with
  | some kind => .unclosed kind
  | none => .unrecognized (String.ofList [c])

/-- How many of the characters after `c` are passed before it is blamed: all in search of a closing
quote, else none. -/
def searched (c : Char) (after : List Char) : Nat :=
  if (quotes.lookup c).isSome then after.length else 0

/-- No token is at the start of the text. -/
def Barren (keywordOperators : Bool) (text : List Char) : Prop :=
  ∀ kind word, Lexeme keywordOperators kind word → ¬ word <+: text

section
variable {kw : Bool} {kind : TokenKind} {c : Char} {rest : List Char}

theorem quotes_lookup_of_unknown (h : charClass c = .unknown) : quotes.lookup c = none := by
  cases hl : quotes.lookup c with
  | none => rfl
  | some kind =>
    have := charClass_of_mem_quotes ((lookup_eq_some_iff_mem (by decide)).mp hl)
    simp [h] at this

theorem blame_of_unknown (h : charClass c = .unknown) :
    blame c = .unrecognized (String.ofList [c]) := by
  rw [blame, quotes_lookup_of_unknown h]

theorem blame_of_mem_quotes (h : (c, kind) ∈ quotes) : blame c = .unclosed kind := by
  have hl : quotes.lookup c = some kind := (lookup_eq_some_iff_mem (by decide)).mpr h
  rw [blame, hl]

theorem exists_lexeme_singleton (hq : charClass c ≠ .quote) (hu : charClass c ≠ .unknown) :
    ∃ kind, Lexeme kw kind [c] := by
  simp only [lexeme_cons_iff, Follows]
  cases hc : charClass c
  case quote => exact absurd hc hq
  case unknown => exact absurd hc hu
  case mark =>
    obtain ⟨kind, hs⟩ := charClass_eq_mark_iff.mp hc
    exact ⟨kind, .inl ⟨hs, trivial⟩⟩
  all_goals simp

/-- No token starts with an unknown character, or with a quote that nothing closes. -/
theorem barren_cons_iff :
    Barren kw (c :: rest) ↔
      charClass c = .unknown ∨
        ∃ kind, (c, kind) ∈ quotes ∧ Lexer.literalTail c false rest = none := by
  constructor
  · intro h
    by_cases hq : charClass c = .quote
    · right
      obtain ⟨kind, hq⟩ := charClass_eq_quote_iff.mp hq
      refine ⟨kind, hq, ?_⟩
      cases ht : Lexer.literalTail c false rest with
      | none => rfl
      | some tail =>
        have hl : Longest kw kind (c :: tail) (c :: rest) := longest_of_literal hq ht
        exact (h _ _ hl.lexeme hl.starts).elim
    · left
      by_contra hu
      obtain ⟨kind, hl⟩ := @exists_lexeme_singleton kw c hq hu
      exact h _ _ hl (by simp)
  · rintro (hu | ⟨kind, hq, ht⟩) kind' word hl
    · exact no_lexeme_of_unknown hu hl
    · exact no_lexeme_of_literal hq ht hl

/-- The two ways to fail: a character is blamed alone, or a quote with all that is behind it. -/
theorem blame_of_barren (h : Barren kw (c :: rest)) :
    (blame c = .unrecognized (String.ofList [c]) ∧ searched c rest = 0) ∨
      ∃ kind, (c, kind) ∈ quotes ∧ blame c = .unclosed kind ∧ searched c rest = rest.length := by
  rcases barren_cons_iff.mp h with hu | ⟨kind, hq, -⟩
  · left
    refine ⟨blame_of_unknown hu, ?_⟩
    rw [searched, quotes_lookup_of_unknown hu]
    rfl
  · right
    refine ⟨kind, hq, blame_of_mem_quotes hq, ?_⟩
    rw [searched, if_pos (lookup_isSome_iff_exists_mem.mpr ⟨kind, hq⟩)]

end

namespace Lexer

variable {kw : Bool} {kind : TokenKind} {ch : Char} {start : Nat} {c : Cursor Char}
  {before : List Char} {p : Char → Bool}

/-- How a scan may go: it takes a token, or it fails. -/
inductive Scanned (kw : Bool) (ch : Char) (start : Nat) (c : Cursor Char) : Scan → Prop
  | token {kind : TokenKind} {tail : List Char}
    (h : Longest kw kind (ch :: tail) (ch :: c.ahead)) :
    Scanned kw ch start c (.ok (token kind start (ch :: tail)), c.skip tail.length)
  | fault (h : Barren kw (ch :: c.ahead)) :
    Scanned kw ch start c
      (.error (.lexical ⟨blame ch, start, String.ofList c.elements⟩),
        c.skip (searched ch c.ahead))

theorem scan_eq (kw : Bool) (ch : Char) (start : Nat) (c : Cursor Char) :
    scan kw ch start c =
      match charClass ch with
      | .space => scanRun .whitespace isSpace start c
      | .tab => scanRun .tab (· == '\t') start c
      | .newline => scanRun .newline newlines.contains start c
      | .quote => scanLiteral ch start c
      | .letter => scanWord kw start c
      | .digit => scanRun .numericLiteral isDigit start c
      | .mark =>
        if (operators.lookup ch).isSome then scanOperator ch start c else scanSymbol ch start c
      | .unknown =>
        (.error (.lexical ⟨.unrecognized (String.ofList [ch]), start, String.ofList c.elements⟩),
          c) := by
  have : (operators.lookup ch).isSome = true → (symbols.lookup ch).isSome = true := by
    intro h
    obtain ⟨seconds, h⟩ := lookup_isSome_iff_exists_mem.mp h
    rw [lookup_isSome_iff_exists_mem]
    exact charClass_eq_mark_iff.mp (charClass_of_mem_operators h)
  unfold scan charClass
  grind

theorem scanned_run (hc : c.behind = ch :: before)
    (h : ∀ kind' rest, Follows kw ch kind' rest ↔ kind' = kind ∧ ∀ d ∈ rest, p d = true) :
    Scanned kw ch start c (scanRun kind p start c) := by
  rw [scanRun, Cursor.advanceWhile_of_behind hc]
  exact .token (longest_of_run (fun _ => kind) h)

theorem scanned_word (hc : c.behind = ch :: before) (h : charClass ch = .letter) :
    Scanned kw ch start c (scanWord kw start c) := by
  rw [scanWord, Cursor.advanceWhile_of_behind hc]
  refine .token (longest_of_run (fun rest => wordKind kw (String.ofList (ch :: rest))) ?_)
  intro kind rest
  rw [Follows, h]

theorem scanned_literal (hq : (ch, kind) ∈ quotes) :
    Scanned kw ch start c (scanLiteral ch start c) := by
  have hl : quotes.lookup ch = some kind := (lookup_eq_some_iff_mem (by decide)).mpr hq
  cases ht : literalTail ch false c.ahead with
  | some tail =>
    have hs : scanLiteral ch start c =
        (.ok (token kind start (ch :: tail)), c.skip tail.length) := by
      simp [scanLiteral, hl, ht]
    rw [hs]
    exact .token (longest_of_literal hq ht)
  | none =>
    have hs : scanLiteral ch start c =
        (.error (.lexical ⟨blame ch, start, String.ofList c.elements⟩),
          c.skip (searched ch c.ahead)) := by
      simp [scanLiteral, blame, searched, hl, ht]
    rw [hs]
    exact .fault (barren_cons_iff.mpr (.inr ⟨kind, hq, ht⟩))

theorem scanned_symbol (hs : (ch, kind) ∈ symbols)
    (hn : ∀ seconds d kind, (ch, seconds) ∈ operators → c.ahead.head? = some d →
      (d, kind) ∉ seconds) : Scanned kw ch start c (scanSymbol ch start c) := by
  have hl : symbols.lookup ch = some kind := (lookup_eq_some_iff_mem (by decide)).mpr hs
  have he : scanSymbol ch start c = (.ok (token kind start [ch]), c.skip 0) := by
    simp [scanSymbol, hl]
  rw [he]
  exact .token (longest_of_mark hs hn)

theorem scanned_operator {seconds : List (Char × TokenKind)} (ho : (ch, seconds) ∈ operators) :
    Scanned kw ch start c (scanOperator ch start c) := by
  have hl : operators.lookup ch = some seconds := (lookup_eq_some_iff_mem (by decide)).mpr ho
  have hn := nodup_of_mem_operators ho
  obtain ⟨kind, hs⟩ := charClass_eq_mark_iff.mp (charClass_of_mem_operators ho)
  cases ha : c.ahead with
  | nil =>
    have he : scanOperator ch start c = scanSymbol ch start c := by
      simp [scanOperator, Cursor.atEnd, ha]
    rw [he]
    exact scanned_symbol hs (by simp [ha])
  | cons d rest =>
    have hp : c.peek 1 = .ok d := by simp [Cursor.peek, Cursor.peek?, ha]
    cases hd : seconds.lookup d with
    | none =>
      have he : scanOperator ch start c = scanSymbol ch start c := by
        simp [scanOperator, Cursor.atEnd, ha, hl, hp, hd]
      rw [he]
      refine scanned_symbol hs ?_
      intro seconds' d' kind' ho' hd' hm
      obtain rfl := table_unique (by decide) ho ho'
      obtain rfl : d = d' := by simpa [ha] using hd'
      simp [(lookup_eq_some_iff_mem hn).mpr hm] at hd
    | some kind =>
      have he : scanOperator ch start c = (.ok (token kind start [ch, d]), c.skip 1) := by
        simp [scanOperator, Cursor.atEnd, ha, hl, hp, hd]
      rw [he]
      have hlong : Longest kw kind [ch, d] (ch :: c.ahead) := by
        rw [ha]
        exact longest_of_operator ho ((lookup_eq_some_iff_mem hn).mp hd)
      exact .token hlong

/-- A scan with the cursor on `ch` takes the longest token from there on, and fails only where there
is none. -/
theorem scanned_scan (kw : Bool) (start : Nat) (hc : c.behind = ch :: before) :
    Scanned kw ch start c (scan kw ch start c) := by
  rw [scan_eq]
  split
  · next h => exact scanned_run hc (by simp [Follows, h])
  · next h => exact scanned_run hc (by simp [Follows, h])
  · next h => exact scanned_run hc (by simp [Follows, h])
  · next h =>
    obtain ⟨kind, hq⟩ := charClass_eq_quote_iff.mp h
    exact scanned_literal hq
  · next h => exact scanned_word hc h
  · next h => exact scanned_run hc (by simp [Follows, h])
  · next h =>
    split
    · next ho =>
      obtain ⟨seconds, ho⟩ := lookup_isSome_iff_exists_mem.mp ho
      exact scanned_operator ho
    · next ho =>
      obtain ⟨kind, hs⟩ := charClass_eq_mark_iff.mp h
      refine scanned_symbol hs ?_
      intro seconds d kind hm _ _
      exact ho (lookup_isSome_iff_exists_mem.mpr ⟨seconds, hm⟩)
  · next h =>
    have he : Scanned kw ch start c _ := .fault (barren_cons_iff.mpr (.inl h))
    simpa [blame_of_unknown h, searched, quotes_lookup_of_unknown h] using he

end Lexer

end TokenStream
