import TokenStream.Token
import TokenStream.Proofs.Lexeme

/-!
Where two tokens meet. A token joins a character if, next to each other, the two would be read as
one longer token.
-/
namespace TokenStream

/-- The character would have been taken into the token before it. -/
inductive Joins (t : Token) (c : Char) : Prop
  | spaces (hk : t.kind = .whitespace) (hc : isSpace c = true)
  | tabs (hk : t.kind = .tab) (hc : c = '\t')
  | breaks (hk : t.kind = .newline) (hc : c ∈ newlines)
  | word {first : Char} {rest : List Char} (ht : t.text.toList = first :: rest)
    (hf : isIdentStart first = true) (hc : isIdentChar c = true)
  | digits (hk : t.kind = .numericLiteral) (hc : isDigit c = true)
  | operator {first : Char} {seconds : List (Char × TokenKind)} {kind : TokenKind}
    (ht : t.text.toList = [first]) (ho : (first, seconds) ∈ operators) (hc : (c, kind) ∈ seconds)

/-- The same by the class of the first character: `c` may follow `a` and `rest` in one token. -/
def Admits (a : Char) (rest : List Char) (c : Char) : Prop :=
  match charClass a with
  | .space => isSpace c = true
  | .tab => c = '\t'
  | .newline => c ∈ newlines
  | .letter => isIdentChar c = true
  | .digit => isDigit c = true
  | .mark => rest = [] ∧ ∃ seconds kind, (a, seconds) ∈ operators ∧ (c, kind) ∈ seconds
  | .quote | .unknown => False

/-- The kinds of runs that are told by their kind alone. -/
def runKinds : List TokenKind := [.whitespace, .tab, .newline, .numericLiteral]

variable {kw : Bool} {kind : TokenKind} {a c : Char} {rest : List Char} {start stop : Int}

theorem wordKind_not_mem_runKinds (text : String) : Lexer.wordKind kw text ∉ runKinds := by
  rcases wordKind_cases kw text with ⟨-, hk⟩ | ⟨hi, -⟩
  · have : ∀ entry ∈ keywords, entry.2 ∉ runKinds := by decide
    exact this _ hk
  · rw [hi]
    decide

/-- A token of such a kind starts with a character of the class of that kind. -/
theorem charClass_of_kind (h : Lexeme kw kind (a :: rest)) (hk : kind ∈ runKinds) :
    (charClass a, kind) ∈ [(.space, .whitespace), (.tab, .tab), (.newline, .newline),
      (CharClass.digit, TokenKind.numericLiteral)] := by
  rw [lexeme_cons_iff, Follows] at h
  cases hc : charClass a <;> simp only [hc] at h
  case quote =>
    have : ∀ entry ∈ quotes, entry.2 ∉ runKinds := by decide
    exact absurd hk (this _ h.1)
  case letter =>
    rw [h.1] at hk
    exact absurd hk (wordKind_not_mem_runKinds _)
  case mark =>
    obtain ⟨hs, -⟩ | ⟨seconds, d, ho, hd, -⟩ := h
    · have : ∀ entry ∈ symbols, entry.2 ∉ runKinds := by decide
      exact absurd hk (this _ hs)
    · have : ∀ entry ∈ operators, ∀ second ∈ entry.2, second.2 ∉ runKinds := by decide
      exact absurd hk (this _ ho _ hd)
  all_goals simp [h.1]

theorem joins_iff_admits (h : Lexeme kw kind (a :: rest)) :
    Joins ⟨kind, String.ofList (a :: rest), start, stop⟩ c ↔ Admits a rest c := by
  constructor
  · intro hj
    unfold Admits
    cases hj with
    | spaces hk hc =>
      obtain rfl : kind = .whitespace := hk
      have ha : charClass a = .space := by simpa using charClass_of_kind h (by decide)
      simpa [ha] using hc
    | tabs hk hc =>
      obtain rfl : kind = .tab := hk
      have ha : charClass a = .tab := by simpa using charClass_of_kind h (by decide)
      simpa [ha] using hc
    | breaks hk hc =>
      obtain rfl : kind = .newline := hk
      have ha : charClass a = .newline := by simpa using charClass_of_kind h (by decide)
      simpa [ha] using hc
    | word ht hf hc =>
      obtain ⟨rfl, rfl⟩ := by simpa using ht
      simpa [charClass_eq_letter_iff.mpr hf] using hc
    | digits hk hc =>
      obtain rfl : kind = .numericLiteral := hk
      have ha : charClass a = .digit := by simpa using charClass_of_kind h (by decide)
      simpa [ha] using hc
    | operator ht ho hc =>
      obtain ⟨rfl, rfl⟩ := by simpa using ht
      rw [charClass_of_mem_operators ho]
      exact ⟨rfl, _, _, ho, hc⟩
  · intro hc
    rw [lexeme_cons_iff, Follows] at h
    unfold Admits at hc
    cases ha : charClass a <;> simp only [ha] at h hc
    case space => exact .spaces h.1 hc
    case tab => exact .tabs h.1 hc
    case newline => exact .breaks h.1 hc
    case letter => exact .word String.toList_ofList (charClass_eq_letter_iff.mp ha) hc
    case digit => exact .digits h.1 hc
    case mark =>
      obtain ⟨rfl, seconds, kind', ho, hc⟩ := hc
      exact .operator String.toList_ofList ho hc

theorem extends_iff_admits (h : Lexeme kw kind (a :: rest)) :
    Extends kw (a :: rest) c ↔ Admits a rest c := by
  unfold Extends Admits
  simp only [List.cons_append, lexeme_cons_iff, Follows] at h ⊢
  cases ha : charClass a <;> simp only [ha] at h ⊢
  case quote =>
    obtain ⟨hq, body, hb, rfl⟩ := h
    simp only [iff_false]
    rintro ⟨kind', -, body', hb', he⟩
    exact literal_not_longer hb hb' (quote_ne_backslash hq) he
  case mark =>
    obtain ⟨-, rfl⟩ | ⟨_, d, _, _, rfl⟩ := h
    · constructor
      · rintro ⟨kind', ⟨-, he⟩ | ⟨seconds, d, ho, hd, he⟩⟩
        · simp at he
        · obtain rfl : c = d := by simpa using he
          exact ⟨rfl, seconds, kind', ho, hd⟩
      · rintro ⟨-, seconds, kind', ho, hd⟩
        exact ⟨kind', Or.inr ⟨seconds, c, ho, hd, rfl⟩⟩
    · simp
  all_goals
    simp only [List.forall_mem_append, List.forall_mem_singleton, exists_eq_left]
    exact ⟨fun hl => hl.2, fun hc => ⟨h.2, hc⟩⟩

/-- Where a token stands does not matter. -/
theorem joins_of_shift {t : Token} {d : Int} (h : Joins (t.shift d) c) : Joins t c := by
  cases h with
  | spaces hk hc => exact .spaces hk hc
  | tabs hk hc => exact .tabs hk hc
  | breaks hk hc => exact .breaks hk hc
  | word ht hf hc => exact .word ht hf hc
  | digits hk hc => exact .digits hk hc
  | operator ht ho hc => exact .operator ht ho hc

/-- Two tokens join where the one is not the longest. -/
theorem joins_iff_extends {word : List Char} (h : Lexeme kw kind word) :
    Joins ⟨kind, String.ofList word, start, stop⟩ c ↔ Extends kw word c := by
  cases word with
  | nil => exact absurd rfl (lexeme_ne_nil h)
  | cons a rest => rw [joins_iff_admits h, extends_iff_admits h]

end TokenStream
