import Mathlib.Data.List.Forall2
import TokenStream.Proofs.Stream

/-!
The switch of the keywords. It decides of what kind some words are and nothing else: with it and
without it a source is cut at the same places, and breaks off at the same place.
-/
namespace TokenStream

variable {kw : Bool} {kind : TokenKind} {word text : List Char} {source : String} {s : Nat}
  {tokens : List Token} {ending : Option Failure} {failure : Failure}

theorem exists_lexeme_switched (kw' : Bool) (h : Lexeme kw kind word) :
    ∃ kind', Lexeme kw' kind' word := by
  cases h with
  | spaces hn h => exact ⟨_, .spaces hn h⟩
  | tabs hn h => exact ⟨_, .tabs hn h⟩
  | breaks hn h => exact ⟨_, .breaks hn h⟩
  | literal hq h => exact ⟨_, .literal hq h⟩
  | keyword hf h | identifier hf h => exact ⟨_, lexeme_of_word hf h⟩
  | digits hn h => exact ⟨_, .digits hn h⟩
  | operator ha hb => exact ⟨_, .operator ha hb⟩
  | mark h => exact ⟨_, .mark h⟩

theorem barren_switched (kw' : Bool) (h : Barren kw text) : Barren kw' text := by
  intro kind word hl
  obtain ⟨kind', hl'⟩ := exists_lexeme_switched kw hl
  exact h kind' word hl'

theorem exists_longest_switched (kw' : Bool) (h : Longest kw kind word text) :
    ∃ kind', Longest kw' kind' word text := by
  obtain ⟨kind', hl⟩ := exists_lexeme_switched kw' h.lexeme
  refine ⟨kind', hl, h.starts, ?_⟩
  intro other word' hl' hp
  obtain ⟨other', hl'⟩ := exists_lexeme_switched kw hl'
  exact h.le other' word' hl' hp

/-- The same part of the source as two tokens, one with the first setting of the switch and one with
the second. -/
structure Token.Recut (kw kw' : Bool) (t u : Token) : Prop where
  text_eq : u.text = t.text
  start_eq : u.start = t.start
  stop_eq : u.stop = t.stop
  lexeme : Lexeme kw t.kind t.text.toList
  lexeme' : Lexeme kw' u.kind t.text.toList

theorem exists_stream_switched (kw' : Bool) (h : Lexer.Stream kw source s tokens ending) :
    ∃ tokens', Lexer.Stream kw' source s tokens' ending ∧
      List.Forall₂ (Token.Recut kw kw') tokens tokens' := by
  induction h with
  | finished => exact ⟨[], .finished, .nil⟩
  | failed hd hb => exact ⟨[], .failed hd (barren_switched kw' hb), .nil⟩
  | @token s kind word tokens ending h _ ih =>
    obtain ⟨tokens', hs, hr⟩ := ih
    obtain ⟨kind', hl⟩ := exists_longest_switched kw' h
    have hword : (String.ofList word).toList = word := String.toList_ofList
    refine ⟨_, .token hl hs, .cons ⟨rfl, rfl, rfl, ?_, ?_⟩ hr⟩
    · exact hword.symm ▸ h.lexeme
    · exact hword.symm ▸ hl.lexeme

theorem exists_tokenize_switched (kw' : Bool) (h : tokenize source kw = .ok tokens) :
    ∃ tokens', tokenize source kw' = .ok tokens' := by
  cases lexed_of_tokenize h with
  | whole hs =>
    obtain ⟨tokens', hs', -⟩ := exists_stream_switched kw' hs
    exact ⟨tokens', tokenize_of_stream hs'⟩

theorem tokenize_switched (kw' : Bool) (h : tokenize source kw = .error failure) :
    tokenize source kw' = .error failure := by
  have hs := Lexer.stream_drain source kw
  rw [tokenize_of_stream hs] at h
  obtain ⟨tokens', hs', -⟩ := exists_stream_switched kw' hs
  rw [tokenize_of_stream hs']
  generalize (Lexer.ofSource source kw).drain.failure = ending at h
  cases ending with
  | none => exact nomatch h
  | some => exact h

/-! ### Kinds -/

/-- A keyword is a word, so the switch decides what it is. -/
theorem lexemes_of_keyword (h : (String.ofList word, kind) ∈ keywords) :
    Lexeme true kind word ∧ Lexeme false .identifier word := by
  have hw : ∀ entry ∈ keywords, entry.1.toList.head?.any isIdentStart ∧
      entry.1.toList.tail.all isIdentChar := by
    decide +kernel
  obtain ⟨hf, hr⟩ := hw _ h
  rw [String.toList_ofList] at hf hr
  obtain ⟨first, hf, hs⟩ := (Option.any_eq_true _ _).mp hf
  obtain ⟨rest, rfl⟩ := List.head?_eq_some_iff.mp hf
  have hr := List.all_eq_true.mp hr
  exact ⟨.keyword hs hr rfl h, .identifier hs hr (by simp)⟩

/-- Any other text is of the same kind with keywords and without. -/
theorem lexeme_of_not_keyword (kw' : Bool) (h : Lexeme kw kind word)
    (hn : ∀ kind, (String.ofList word, kind) ∉ keywords) : Lexeme kw' kind word := by
  cases h with
  | spaces hne h => exact .spaces hne h
  | tabs hne h => exact .tabs hne h
  | breaks hne h => exact .breaks hne h
  | literal hq h => exact .literal hq h
  | keyword _ _ _ hk => exact absurd hk (hn _)
  | identifier hf h => exact .identifier hf h fun _ => hn
  | digits hne h => exact .digits hne h
  | operator ha hb => exact .operator ha hb
  | mark h => exact .mark h

/-- Without keywords only a mark is of the kind of a keyword. -/
theorem mark_of_lexeme (h : Lexeme false kind word) (hk : kind ∈ keywords.map Prod.snd) :
    (kind, String.ofList word) ∈ [(.ampersand, "&"), (TokenKind.pipe, "|")] := by
  cases h with
  | spaces | tabs | breaks | identifier | digits => exact absurd hk (by decide)
  | keyword _ _ ho => exact nomatch ho
  | literal hq =>
    have : ∀ entry ∈ quotes, entry.2 ∉ keywords.map Prod.snd := by decide
    exact absurd hk (this _ hq)
  | operator ha hb =>
    have : ∀ entry ∈ operators, ∀ second ∈ entry.2, second.2 ∉ keywords.map Prod.snd := by decide
    exact absurd hk (this _ ha _ hb)
  | mark h =>
    have : ∀ entry ∈ symbols, entry.2 ∈ keywords.map Prod.snd →
        (entry.2, String.ofList [entry.1]) ∈ [(.ampersand, "&"), (TokenKind.pipe, "|")] := by decide
    exact this _ h hk

/-- A token read without keywords, and the one it is with keywords. -/
structure Token.Switched (t u : Token) : Prop where
  text_eq : u.text = t.text
  start_eq : u.start = t.start
  stop_eq : u.stop = t.stop
  kind_ne_iff : u.kind ≠ t.kind ↔ t.text ∈ ["AND", "OR", "XOR", "XAND"]
  kinds : t.text ∈ ["AND", "OR", "XOR", "XAND"] →
    (t.text, u.kind) ∈ keywords ∧ t.kind = .identifier

theorem mem_keywords_iff {text : String} :
    text ∈ ["AND", "OR", "XOR", "XAND"] ↔ ∃ kind, (text, kind) ∈ keywords := by
  have hp : ["AND", "OR", "XOR", "XAND"].Perm (keywords.map Prod.fst) := by decide
  rw [hp.mem_iff, List.mem_map]
  simp

theorem switched_of_recut {t u : Token} (h : t.Recut false true u) : t.Switched u := by
  have hk : t.text ∈ ["AND", "OR", "XOR", "XAND"] →
      (t.text, u.kind) ∈ keywords ∧ t.kind = .identifier := by
    intro hm
    obtain ⟨kind, hkind⟩ := mem_keywords_iff.mp hm
    obtain ⟨hon, hoff⟩ := @lexemes_of_keyword kind t.text.toList (by simpa using hkind)
    obtain rfl := lexeme_unique hon h.lexeme'
    exact ⟨hkind, lexeme_unique h.lexeme hoff⟩
  refine ⟨h.text_eq, h.start_eq, h.stop_eq, ?_, hk⟩
  constructor
  · intro hne
    by_contra hm
    have hn : ∀ kind, (String.ofList t.text.toList, kind) ∉ keywords := by
      intro kind hkind
      exact hm (mem_keywords_iff.mpr ⟨kind, by simpa using hkind⟩)
    exact hne (lexeme_unique h.lexeme' (lexeme_of_not_keyword true h.lexeme hn))
  · intro hm he
    obtain ⟨hkind, hi⟩ := hk hm
    have : ∀ entry ∈ keywords, entry.2 ≠ .identifier := by decide
    exact this _ hkind (he.trans hi)

/-- With keywords and without, a source is cut at the same places into the same texts and breaks off
with the same failure. Only the kinds of the keywords differ, which are identifiers without. -/
theorem keyword_switch_changes_kinds (source : String) :
    let without := (Lexer.ofSource source false).drain
    let withKeywords := (Lexer.ofSource source true).drain
    List.Forall₂ Token.Switched without.tokens withKeywords.tokens ∧
    withKeywords.failure = without.failure ∧
    ∀ t ∈ without.tokens, (t.kind = .ampersand → t.text = "&") ∧ (t.kind = .pipe → t.text = "|") ∧
      t.kind ≠ .bitwiseExclusiveAnd ∧ t.kind ≠ .bitwiseExclusiveOr := by
  intro without withKeywords
  have hoff := Lexer.stream_drain source false
  obtain ⟨tokens, hs, hr⟩ := exists_stream_switched true hoff
  obtain ⟨rfl, hfailure⟩ := Lexer.stream_unique hs (Lexer.stream_drain source true)
  refine ⟨hr.imp fun _ _ => switched_of_recut, hfailure.symm, ?_⟩
  intro t ht
  have hmark := mark_of_lexeme (Lexer.lexeme_of_stream hoff t ht)
  rw [String.ofList_toList] at hmark
  refine ⟨?_, ?_, ?_, ?_⟩
  all_goals
    intro hk
    simpa [hk] using hmark (by simp [hk, keywords])

end TokenStream
