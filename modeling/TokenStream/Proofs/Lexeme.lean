import Mathlib.Tactic.ByContra
import TokenStream.Lexer
import TokenStream.Proofs.CharClass

/-!
The texts of tokens, described apart from how they are scanned, and the longest of them that a text
starts with. A token is the longest one as soon as the character after it does not extend it.
-/
namespace TokenStream

/-- What stands between the quotes of a literal. -/
inductive LiteralBody (quote : Char) : List Char → Prop
  | nil : LiteralBody quote []
  | escaped {c : Char} {rest : List Char} (h : LiteralBody quote rest) :
    LiteralBody quote ('\\' :: c :: rest)
  | plain {c : Char} {rest : List Char} (hb : c ≠ '\\') (hq : c ≠ quote)
    (h : LiteralBody quote rest) : LiteralBody quote (c :: rest)

/-- The texts of tokens of each kind. -/
inductive Lexeme (keywordOperators : Bool) : TokenKind → List Char → Prop
  | spaces {run : List Char} (hn : run ≠ []) (h : ∀ c ∈ run, isSpace c = true) :
    Lexeme keywordOperators .whitespace run
  | tabs {run : List Char} (hn : run ≠ []) (h : ∀ c ∈ run, c = '\t') :
    Lexeme keywordOperators .tab run
  | breaks {run : List Char} (hn : run ≠ []) (h : ∀ c ∈ run, c ∈ newlines) :
    Lexeme keywordOperators .newline run
  | literal {quote : Char} {kind : TokenKind} {body : List Char} (hq : (quote, kind) ∈ quotes)
    (h : LiteralBody quote body) : Lexeme keywordOperators kind (quote :: (body ++ [quote]))
  | keyword {first : Char} {rest : List Char} {kind : TokenKind} (hf : isIdentStart first = true)
    (h : ∀ c ∈ rest, isIdentChar c = true) (ho : keywordOperators = true)
    (hk : (String.ofList (first :: rest), kind) ∈ keywords) :
    Lexeme keywordOperators kind (first :: rest)
  | identifier {first : Char} {rest : List Char} (hf : isIdentStart first = true)
    (h : ∀ c ∈ rest, isIdentChar c = true)
    (hk : keywordOperators = true → ∀ kind, (String.ofList (first :: rest), kind) ∉ keywords) :
    Lexeme keywordOperators .identifier (first :: rest)
  | digits {run : List Char} (hn : run ≠ []) (h : ∀ c ∈ run, isDigit c = true) :
    Lexeme keywordOperators .numericLiteral run
  | operator {a b : Char} {seconds : List (Char × TokenKind)} {kind : TokenKind}
    (ha : (a, seconds) ∈ operators) (hb : (b, kind) ∈ seconds) : Lexeme keywordOperators kind [a, b]
  | mark {a : Char} {kind : TokenKind} (h : (a, kind) ∈ symbols) : Lexeme keywordOperators kind [a]

/-- A token of the given kind is the longest one that the text starts with. -/
structure Longest (keywordOperators : Bool) (kind : TokenKind) (word text : List Char) : Prop where
  lexeme : Lexeme keywordOperators kind word
  starts : word <+: text
  le : ∀ kind' word', Lexeme keywordOperators kind' word' → word' <+: text →
    word'.length ≤ word.length

variable {kw escaped : Bool} {kind kind' : TokenKind} {c d quote : Char}
  {word word' text rest tail body : List Char}

/-! ### Literals -/

theorem quote_ne_backslash (h : (quote, kind) ∈ quotes) : quote ≠ '\\' := by
  have : ∀ entry ∈ quotes, entry.1 ≠ '\\' := by decide
  exact this _ h

/-- A quote that is not escaped closes the literal; anything else is passed. -/
theorem literalTail_cons :
    Lexer.literalTail quote escaped (c :: rest) =
      if escaped = false ∧ c ≠ '\\' ∧ c = quote then some [c]
      else (Lexer.literalTail quote (!escaped && decide (c = '\\')) rest).map (c :: ·) := by
  cases escaped with
  | true => simp [Lexer.literalTail]
  | false =>
    by_cases hb : c = '\\'
    · simp [Lexer.literalTail, hb]
    · by_cases hq : c = quote
      · subst hq
        simp [Lexer.literalTail, hb]
      · simp [Lexer.literalTail, hb, hq]

theorem literalTail_of_body (hb : LiteralBody quote body) (hq : quote ≠ '\\')
    (rest : List Char) :
    Lexer.literalTail quote false (body ++ quote :: rest) = some (body ++ [quote]) := by
  induction hb with
  | nil => simp [Lexer.literalTail, hq]
  | escaped _ ih => simp [Lexer.literalTail, ih]
  | plain hb hq' _ ih => simp [Lexer.literalTail, hb, hq', ih]

theorem exists_body_of_literalTail : ∀ {text tail : List Char},
    Lexer.literalTail quote false text = some tail →
      ∃ body, LiteralBody quote body ∧ tail = body ++ [quote] ∧ tail <+: text
  | [], _, h => by simp [Lexer.literalTail] at h
  | c :: rest, tail, h => by
    by_cases hb : c = '\\'
    · -- what follows a backslash is passed with it, so the body goes on two characters later
      subst hb
      cases rest with
      | nil => simp [Lexer.literalTail] at h
      | cons d rest =>
        obtain ⟨tail, ht, rfl⟩ := by simpa [Lexer.literalTail] using h
        obtain ⟨body, hbody, rfl, hp⟩ := exists_body_of_literalTail ht
        exact ⟨'\\' :: d :: body, .escaped hbody, rfl, by simpa using hp⟩
    · by_cases hq : c = quote
      · subst hq
        obtain rfl : [c] = tail := by simpa [Lexer.literalTail, hb] using h
        exact ⟨[], .nil, rfl, by simp⟩
      · obtain ⟨tail, ht, rfl⟩ := by simpa [Lexer.literalTail, hb, hq] using h
        obtain ⟨body, hbody, rfl, hp⟩ := exists_body_of_literalTail ht
        exact ⟨c :: body, .plain hb hq hbody, rfl, by simpa using hp⟩

theorem literalTail_eq_some_iff (hq : quote ≠ '\\') :
    Lexer.literalTail quote false text = some tail ↔
      ∃ body, LiteralBody quote body ∧ tail = body ++ [quote] ∧ tail <+: text := by
  constructor
  · exact exists_body_of_literalTail
  · rintro ⟨body, hb, rfl, rest, rfl⟩
    simpa using literalTail_of_body hb hq rest

/-- A literal ends with its first closing quote. -/
theorem literal_not_longer {body' : List Char} (hb : LiteralBody quote body)
    (hb' : LiteralBody quote body') (hq : quote ≠ '\\') :
    body ++ [quote] ++ c :: rest ≠ body' ++ [quote] := by
  intro he
  have h := literalTail_of_body hb hq (c :: rest)
  have h' := (literalTail_eq_some_iff hq).mpr ⟨body', hb', rfl, List.prefix_refl _⟩
  rw [← he] at h'
  simp [h] at h'

/-! ### The first character -/

/-- What may follow the first character of a token of the given kind, by the class of that
character. -/
def Follows (keywordOperators : Bool) (c : Char) (kind : TokenKind) (rest : List Char) : Prop :=
  match charClass c with
  | .space => kind = .whitespace ∧ ∀ d ∈ rest, isSpace d = true
  | .tab => kind = .tab ∧ ∀ d ∈ rest, d = '\t'
  | .newline => kind = .newline ∧ ∀ d ∈ rest, d ∈ newlines
  | .quote => (c, kind) ∈ quotes ∧ ∃ body, LiteralBody c body ∧ rest = body ++ [c]
  | .letter => kind = Lexer.wordKind keywordOperators (String.ofList (c :: rest)) ∧
    ∀ d ∈ rest, isIdentChar d = true
  | .digit => kind = .numericLiteral ∧ ∀ d ∈ rest, isDigit d = true
  | .mark => ((c, kind) ∈ symbols ∧ rest = []) ∨
    ∃ seconds d, (c, seconds) ∈ operators ∧ (d, kind) ∈ seconds ∧ rest = [d]
  | .unknown => False

theorem keywords_lookup_eq_some_iff {text : String} :
    keywords.lookup text = some kind ↔ (text, kind) ∈ keywords :=
  lookup_eq_some_iff_mem (by decide)

theorem lexeme_ne_nil (h : Lexeme kw kind word) : word ≠ [] := by
  cases h <;> simp_all

theorem wordKind_eq_of_mem {text : String} (ho : kw = true) (hk : (text, kind) ∈ keywords) :
    Lexer.wordKind kw text = kind := by
  simp [Lexer.wordKind, ho, keywords_lookup_eq_some_iff.mpr hk]

theorem wordKind_eq_identifier {text : String}
    (h : kw = true → ∀ kind, (text, kind) ∉ keywords) : Lexer.wordKind kw text = .identifier := by
  cases kw with
  | false => rfl
  | true =>
    cases hl : keywords.lookup text with
    | none => simp [Lexer.wordKind, hl]
    | some kind => exact absurd (keywords_lookup_eq_some_iff.mp hl) (h rfl kind)

theorem wordKind_cases (kw : Bool) (text : String) :
    (kw = true ∧ (text, Lexer.wordKind kw text) ∈ keywords) ∨
    (Lexer.wordKind kw text = .identifier ∧ (kw = true → ∀ kind, (text, kind) ∉ keywords)) := by
  by_cases hk : kw = true ∧ ∃ kind, (text, kind) ∈ keywords
  · obtain ⟨ho, kind, hk⟩ := hk
    rw [wordKind_eq_of_mem ho hk]
    exact Or.inl ⟨ho, hk⟩
  · have hn : kw = true → ∀ kind, (text, kind) ∉ keywords := by
      intro ho kind hm
      exact hk ⟨ho, kind, hm⟩
    exact Or.inr ⟨wordKind_eq_identifier hn, hn⟩

theorem follows_of_lexeme (h : Lexeme kw kind (c :: rest)) : Follows kw c kind rest := by
  unfold Follows
  cases h with
  | spaces _ h =>
    obtain ⟨hc, hr⟩ := List.forall_mem_cons.mp h
    simpa [charClass_eq_space_iff.mpr hc] using hr
  | tabs _ h =>
    obtain ⟨hc, hr⟩ := List.forall_mem_cons.mp h
    simpa [charClass_eq_tab_iff.mpr hc] using hr
  | breaks _ h =>
    obtain ⟨hc, hr⟩ := List.forall_mem_cons.mp h
    simpa [charClass_eq_newline_iff.mpr hc] using hr
  | literal hq hb =>
    rw [charClass_eq_quote_iff.mpr ⟨_, hq⟩]
    exact ⟨hq, _, hb, rfl⟩
  | keyword hf hr ho hk =>
    rw [charClass_eq_letter_iff.mpr hf]
    exact ⟨(wordKind_eq_of_mem ho hk).symm, hr⟩
  | identifier hf hr hk =>
    rw [charClass_eq_letter_iff.mpr hf]
    exact ⟨(wordKind_eq_identifier hk).symm, hr⟩
  | digits _ h =>
    obtain ⟨hc, hr⟩ := List.forall_mem_cons.mp h
    simpa [charClass_eq_digit_iff.mpr hc] using hr
  | operator ha hb =>
    rw [charClass_of_mem_operators ha]
    exact Or.inr ⟨_, _, ha, hb, rfl⟩
  | mark h =>
    rw [charClass_of_mem_symbols h]
    exact Or.inl ⟨h, rfl⟩

theorem lexeme_of_word (hf : isIdentStart c = true) (h : ∀ d ∈ rest, isIdentChar d = true) :
    Lexeme kw (Lexer.wordKind kw (String.ofList (c :: rest))) (c :: rest) := by
  rcases wordKind_cases kw (String.ofList (c :: rest)) with ⟨ho, hk⟩ | ⟨hi, hn⟩
  · exact .keyword hf h ho hk
  · rw [hi]
    exact .identifier hf h hn

theorem lexeme_of_follows (h : Follows kw c kind rest) : Lexeme kw kind (c :: rest) := by
  unfold Follows at h
  split at h
  · next hc =>
    obtain ⟨rfl, hr⟩ := h
    exact .spaces (by simp) (List.forall_mem_cons.mpr ⟨charClass_eq_space_iff.mp hc, hr⟩)
  · next hc =>
    obtain ⟨rfl, hr⟩ := h
    exact .tabs (by simp) (List.forall_mem_cons.mpr ⟨charClass_eq_tab_iff.mp hc, hr⟩)
  · next hc =>
    obtain ⟨rfl, hr⟩ := h
    exact .breaks (by simp) (List.forall_mem_cons.mpr ⟨charClass_eq_newline_iff.mp hc, hr⟩)
  · obtain ⟨hq, body, hb, rfl⟩ := h
    exact .literal hq hb
  · next hc =>
    obtain ⟨rfl, hr⟩ := h
    exact lexeme_of_word (charClass_eq_letter_iff.mp hc) hr
  · next hc =>
    obtain ⟨rfl, hr⟩ := h
    exact .digits (by simp) (List.forall_mem_cons.mpr ⟨charClass_eq_digit_iff.mp hc, hr⟩)
  · obtain ⟨hs, rfl⟩ | ⟨seconds, d, ha, hb, rfl⟩ := h
    · exact .mark hs
    · exact .operator ha hb
  · exact h.elim

theorem lexeme_cons_iff : Lexeme kw kind (c :: rest) ↔ Follows kw c kind rest :=
  ⟨follows_of_lexeme, lexeme_of_follows⟩

theorem nodup_of_mem_operators {seconds : List (Char × TokenKind)} (h : (c, seconds) ∈ operators) :
    (seconds.map Prod.fst).Nodup := by
  have : ∀ entry ∈ operators, (entry.2.map Prod.fst).Nodup := by decide
  exact this _ h

theorem operators_unique {seconds seconds' : List (Char × TokenKind)}
    (ha : (c, seconds) ∈ operators) (ha' : (c, seconds') ∈ operators)
    (hb : (d, kind) ∈ seconds) (hb' : (d, kind') ∈ seconds') : kind = kind' := by
  obtain rfl := table_unique (by decide) ha ha'
  exact table_unique (nodup_of_mem_operators ha) hb hb'

/-- A text is a token of one kind only. -/
theorem lexeme_unique (h : Lexeme kw kind word) (h' : Lexeme kw kind' word) : kind = kind' := by
  cases word with
  | nil => exact absurd rfl (lexeme_ne_nil h)
  | cons c rest =>
    rw [lexeme_cons_iff, Follows] at h h'
    cases hc : charClass c <;> simp only [hc] at h h'
    case quote => exact table_unique (by decide) h.1 h'.1
    case mark =>
      obtain ⟨hs, rfl⟩ | ⟨seconds, d, ha, hb, rfl⟩ := h
      · obtain ⟨hs', -⟩ | ⟨_, _, _, _, he⟩ := h'
        · exact table_unique (by decide) hs hs'
        · simp at he
      · obtain ⟨-, he⟩ | ⟨_, _, ha', hb', he⟩ := h'
        · simp at he
        · obtain rfl := List.singleton_inj.mp he
          exact operators_unique ha ha' hb hb'
    all_goals exact h.1.trans h'.1.symm

/-- What makes a token longer makes it longer one character at a time. -/
theorem lexeme_of_longer (h : Lexeme kw kind word) (h' : Lexeme kw kind' (word ++ c :: rest)) :
    ∃ kind, Lexeme kw kind (word ++ [c]) := by
  cases word with
  | nil => exact absurd rfl (lexeme_ne_nil h)
  | cons a word =>
    have hsub : ∀ d ∈ word ++ [c], d ∈ word ++ c :: rest := by simp +contextual [or_imp]
    simp only [List.cons_append, lexeme_cons_iff, Follows] at h h' ⊢
    cases ha : charClass a <;> simp only [ha] at h h' ⊢
    case quote =>
      obtain ⟨hq, body, hb, rfl⟩ := h
      obtain ⟨-, body', hb', he⟩ := h'
      exact (literal_not_longer hb hb' (quote_ne_backslash hq) he).elim
    case mark =>
      obtain ⟨-, rfl⟩ | ⟨_, _, _, _, rfl⟩ := h
      · obtain ⟨-, he⟩ | ⟨seconds, d, hs, hd, he⟩ := h'
        · simp at he
        · obtain ⟨rfl, rfl⟩ := by simpa using he
          exact ⟨kind', Or.inr ⟨seconds, c, hs, hd, rfl⟩⟩
      · obtain ⟨-, he⟩ | ⟨_, _, _, _, he⟩ := h' <;> simp at he
    all_goals exact ⟨_, rfl, fun d hd => h'.2 d (hsub d hd)⟩

/-! ### The longest token -/

/-- The character makes a longer token of the text. -/
def Extends (keywordOperators : Bool) (word : List Char) (c : Char) : Prop :=
  ∃ kind, Lexeme keywordOperators kind (word ++ [c])

theorem not_longest_nil : ¬ Longest kw kind word [] := by
  intro h
  exact lexeme_ne_nil h.lexeme (List.prefix_nil.mp h.starts)

theorem longest_unique (h : Longest kw kind word text) (h' : Longest kw kind' word' text) :
    kind = kind' ∧ word = word' := by
  have hle := h.le _ _ h'.lexeme h'.starts
  have hle' := h'.le _ _ h.lexeme h.starts
  obtain rfl : word = word' :=
    (List.prefix_of_prefix_length_le h.starts h'.starts hle').eq_of_length (by omega)
  exact ⟨lexeme_unique h.lexeme h'.lexeme, rfl⟩

theorem longest_append_iff :
    Longest kw kind word (word ++ rest) ↔
      Lexeme kw kind word ∧ ∀ c, rest.head? = some c → ¬ Extends kw word c := by
  constructor
  · intro h
    refine ⟨h.lexeme, ?_⟩
    rintro c hc ⟨kind', he⟩
    have hp : word ++ [c] <+: word ++ rest := by
      cases rest with
      | nil => simp at hc
      | cons d rest => simp_all
    have := h.le _ _ he hp
    simp only [List.length_append, List.length_singleton] at this
    omega
  · rintro ⟨h, hn⟩
    refine ⟨h, List.prefix_append _ _, ?_⟩
    intro kind' word' h' hp
    by_contra hlt
    obtain ⟨more, rfl⟩ := List.prefix_of_prefix_length_le (List.prefix_append word rest) hp
      (by omega)
    cases more with
    | nil => simp at hlt
    | cons c more =>
      have hc : rest.head? = some c := by
        obtain ⟨last, hl⟩ := hp
        obtain rfl : rest = c :: (more ++ last) := by simpa using hl.symm
        rfl
      exact hn c hc (lexeme_of_longer h h')

/-- Where a first character leaves only the test `p` for the characters after it, the longest token
is the run of those that pass. -/
theorem longest_of_run {p : Char → Bool} (kindOf : List Char → TokenKind)
    (h : ∀ kind rest, Follows kw c kind rest ↔ kind = kindOf rest ∧ ∀ d ∈ rest, p d = true) :
    Longest kw (kindOf (text.takeWhile p)) (c :: text.takeWhile p) (c :: text) := by
  have he : c :: text = c :: text.takeWhile p ++ text.dropWhile p := by simp
  rw [he, longest_append_iff]
  constructor
  · exact lexeme_cons_iff.mpr ((h _ _).mpr ⟨rfl, List.all_eq_true.mp List.all_takeWhile⟩)
  · rintro d hd ⟨kind', hl⟩
    rw [List.cons_append, lexeme_cons_iff, h] at hl
    have hp : p d = true := hl.2 d (by simp)
    have hn := List.head?_dropWhile_not p text
    simp [hd, hp] at hn

theorem longest_of_literal {kind : TokenKind} (hq : (c, kind) ∈ quotes)
    (ht : Lexer.literalTail c false text = some tail) :
    Longest kw kind (c :: tail) (c :: text) := by
  obtain ⟨body, hb, rfl, rest, rfl⟩ := exists_body_of_literalTail ht
  have he : c :: (body ++ [c] ++ rest) = c :: (body ++ [c]) ++ rest := rfl
  rw [he, longest_append_iff]
  refine ⟨.literal hq hb, ?_⟩
  rintro d - ⟨kind', hl⟩
  rw [List.cons_append, lexeme_cons_iff, Follows, charClass_of_mem_quotes hq] at hl
  obtain ⟨-, body', hb', he⟩ := hl
  exact literal_not_longer hb hb' (quote_ne_backslash hq) he

theorem no_lexeme_of_literal {kind : TokenKind} (hq : (c, kind) ∈ quotes)
    (ht : Lexer.literalTail c false text = none) (h : Lexeme kw kind' word) :
    ¬ word <+: c :: text := by
  intro hp
  cases word with
  | nil => exact absurd rfl (lexeme_ne_nil h)
  | cons d rest =>
    obtain ⟨rfl, hr⟩ := List.cons_prefix_cons.mp hp
    rw [lexeme_cons_iff, Follows, charClass_of_mem_quotes hq] at h
    obtain ⟨-, body, hb, rfl⟩ := h
    have := (literalTail_eq_some_iff (quote_ne_backslash hq)).mpr ⟨body, hb, rfl, hr⟩
    simp [ht] at this

theorem longest_of_operator {seconds : List (Char × TokenKind)} (hc : (c, seconds) ∈ operators)
    (hd : (d, kind) ∈ seconds) : Longest kw kind [c, d] (c :: d :: text) := by
  have he : c :: d :: text = [c, d] ++ text := rfl
  rw [he, longest_append_iff]
  refine ⟨.operator hc hd, ?_⟩
  rintro e - ⟨kind', hl⟩
  rw [List.cons_append, lexeme_cons_iff, Follows, charClass_of_mem_operators hc] at hl
  obtain ⟨-, he⟩ | ⟨_, _, _, _, he⟩ := hl <;> simp at he

theorem longest_of_mark (hc : (c, kind) ∈ symbols)
    (hn : ∀ seconds d kind, (c, seconds) ∈ operators → text.head? = some d → (d, kind) ∉ seconds) :
    Longest kw kind [c] (c :: text) := by
  have he : c :: text = [c] ++ text := rfl
  rw [he, longest_append_iff]
  refine ⟨.mark hc, ?_⟩
  rintro d hd ⟨kind', hl⟩
  rw [List.cons_append, lexeme_cons_iff, Follows, charClass_of_mem_symbols hc] at hl
  obtain ⟨-, he⟩ | ⟨seconds, e, hs, hk, he⟩ := hl
  · simp at he
  · obtain rfl : d = e := by simpa using he
    exact hn seconds d kind' hs hd hk

theorem no_lexeme_of_unknown (hc : charClass c = .unknown) (h : Lexeme kw kind word) :
    ¬ word <+: c :: text := by
  intro hp
  cases word with
  | nil => exact absurd rfl (lexeme_ne_nil h)
  | cons d rest =>
    obtain ⟨rfl, -⟩ := List.cons_prefix_cons.mp hp
    rw [lexeme_cons_iff, Follows, hc] at h
    exact h

end TokenStream
