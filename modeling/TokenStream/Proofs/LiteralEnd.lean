import TokenStream.Proofs.Lossless

/-!
Where a literal ends. The lexer goes forward and keeps in mind whether the next character is
escaped; here a quote is looked at from behind: it closes the literal if the backslashes right
before it are even in number. Both mean the same quote.
-/
namespace TokenStream

/-- How many backslashes stand right before the index `j`, not counting any before `first`. -/
def backslashesBefore (text : List Char) (first j : Nat) : Nat :=
  (((text.take j).drop first).reverse.takeWhile (· == '\\')).length

/-- The quote at the index `j` may close a literal that is opened at `s`. -/
structure Closes (source : String) (s : Nat) (quote : Char) (j : Nat) : Prop where
  after : s < j
  quote_at : source.toList[j]? = some quote
  even : backslashesBefore source.toList (s + 1) j % 2 = 0

/-- The words for the literals of the two quotes. -/
def literalNames : List (Char × String) := [('"', "string"), ('\'', "char")]

/-- What a lexer replies at a quote. -/
inductive LiteralReply (source : String) (s : Nat) (quote : Char) (kind : TokenKind) :
    Except Failure (Option Token) → Prop
  | closed {j : Nat} (hc : Closes source s quote j) (hf : ∀ i < j, ¬ Closes source s quote i) :
    LiteralReply source s quote kind (.ok (some ⟨kind, slice source s (j + 1), s, j + 1⟩))
  | unclosed {name : String} (hl : (quote, name) ∈ literalNames)
    (hn : ∀ j, ¬ Closes source s quote j) :
    LiteralReply source s quote kind
      (.error (.lexical ⟨.unterminated s!"unterminated {name} literal" (some kind), s, source⟩))

variable {text rest : List Char} {c quote : Char} {kind : TokenKind} {first j p s : Nat}
  {source : String} {lexer : Lexer}

theorem backslashesBefore_self : backslashesBefore text first first = 0 := by
  simp [backslashesBefore]

theorem backslashesBefore_succ (h : text[j]? = some c) (hf : first ≤ j) :
    backslashesBefore text first (j + 1) =
      if c = '\\' then backslashesBefore text first j + 1 else 0 := by
  obtain ⟨hlt, rfl⟩ := List.getElem?_eq_some_iff.mp h
  have hd : ((text.take (j + 1)).drop first) = (text.take j).drop first ++ [text[j]] := by
    rw [List.take_succ_eq_append_getElem hlt, List.drop_append_of_le_length]
    rw [List.length_take]
    omega
  rw [backslashesBefore, hd, List.reverse_concat, List.takeWhile_cons]
  by_cases hb : text[j] = '\\' <;> simp [hb, backslashesBefore]

/-- Whether the character at the index `j` is escaped. -/
def escapedAt (text : List Char) (first j : Nat) : Bool :=
  decide (backslashesBefore text first j % 2 = 1)

theorem escapedAt_succ (h : text[j]? = some c) (hf : first ≤ j) :
    escapedAt text first (j + 1) = (!escapedAt text first j && decide (c = '\\')) := by
  unfold escapedAt
  rw [backslashesBefore_succ h hf]
  by_cases hb : c = '\\'
  · simp only [hb, decide_true, Bool.and_true, if_true, ← decide_not, decide_eq_decide]
    omega
  · simp [hb]

/-- What is left from the index `p` on of a literal that is opened at `s`: all up to the first index
that closes it. -/
inductive TailFrom (source : String) (s : Nat) (quote : Char) (p : Nat) :
    Option (List Char) → Prop
  | closed {j : Nat} (hp : p ≤ j) (hc : Closes source s quote j)
    (hf : ∀ i, p ≤ i → i < j → ¬ Closes source s quote i) :
    TailFrom source s quote p (some ((source.toList.drop p).take (j + 1 - p)))
  | unclosed (hn : ∀ j, p ≤ j → ¬ Closes source s quote j) : TailFrom source s quote p none

/-- A character that does not close the literal is passed. -/
theorem tailFrom_pass {tail : Option (List Char)} (hd : source.toList.drop p = c :: rest)
    (hn : ¬ Closes source s quote p) (h : TailFrom source s quote (p + 1) tail) :
    TailFrom source s quote p (tail.map (c :: ·)) := by
  have hne : ∀ i, p ≤ i → Closes source s quote i → p + 1 ≤ i := by
    intro i hi hc
    have : i ≠ p := by
      rintro rfl
      exact hn hc
    omega
  cases h with
  | @closed j hp hc hf =>
    have hk : j + 1 - p = j + 1 - (p + 1) + 1 := by omega
    have htake : c :: (source.toList.drop (p + 1)).take (j + 1 - (p + 1)) =
        (source.toList.drop p).take (j + 1 - p) := by
      rw [(of_drop_eq_cons hd).2, hd, hk, List.take_succ_cons]
    rw [Option.map_some, htake]
    refine .closed (by omega) hc ?_
    intro i hi hij hci
    exact hf i (hne i hi hci) hij hci
  | unclosed hn' =>
    refine .unclosed ?_
    intro i hi hci
    exact hn' i (hne i hi hci) hci

/-- The search forward keeps in mind what a look back from each index says. -/
theorem tailFrom_literalTail (hq : quote ≠ '\\') (hs : s < p)
    (hd : source.toList.drop p = rest) :
    TailFrom source s quote p
      (Lexer.literalTail quote (escapedAt source.toList (s + 1) p) rest) := by
  induction rest generalizing p with
  | nil =>
    have ht : ∀ escaped, Lexer.literalTail quote escaped [] = none := by
      intro escaped
      cases escaped <;> rfl
    rw [ht]
    refine .unclosed ?_
    intro i hi hc
    have hl := List.drop_eq_nil_iff.mp hd
    have hlt := (List.getElem?_eq_some_iff.mp hc.quote_at).1
    omega
  | cons c rest ih =>
    obtain ⟨hat, hrest⟩ := of_drop_eq_cons hd
    have hnext := ih (Nat.lt_succ_of_lt hs) hrest
    rw [escapedAt_succ hat hs] at hnext
    rw [literalTail_cons]
    by_cases hc : Closes source s quote p
    · obtain rfl : c = quote := by simpa [hat] using hc.quote_at
      have htake : [c] = (source.toList.drop p).take (p + 1 - p) := by
        rw [hd, Nat.add_sub_cancel_left, List.take_succ_cons, List.take_zero]
      rw [if_pos ⟨by simp [escapedAt, hc.even], hq, rfl⟩, htake]
      refine .closed (Nat.le_refl p) hc ?_
      intro i hi hlt
      omega
    · have hopen : ¬ (escapedAt source.toList (s + 1) p = false ∧ c ≠ '\\' ∧ c = quote) := by
        rintro ⟨he, -, rfl⟩
        exact hc ⟨hs, hat, by simpa [escapedAt] using he⟩
      rw [if_neg hopen]
      exact tailFrom_pass hd hc hnext

/-- What follows the quote that opens a literal. -/
theorem tailFrom_quote (hq : quote ≠ '\\') (hd : source.toList.drop s = quote :: rest) :
    TailFrom source s quote (s + 1) (Lexer.literalTail quote false rest) := by
  have ht := tailFrom_literalTail hq (Nat.lt_succ_self s) (of_drop_eq_cons hd).2
  have he : escapedAt source.toList (s + 1) (s + 1) = false := by
    simp [escapedAt, backslashesBefore_self]
  rwa [he] at ht

theorem exists_literalName (hq : (quote, kind) ∈ quotes) :
    ∃ name, (quote, name) ∈ literalNames ∧
      blame quote = .unterminated s!"unterminated {name} literal" (some kind) := by
  rw [blame_of_mem_quotes hq]
  have : ∀ entry ∈ quotes, ∃ name ∈ literalNames, name.1 = entry.1 ∧
      Fault.unclosed entry.2 =
        .unterminated s!"unterminated {name.2} literal" (some entry.2) := by decide
  obtain ⟨⟨_, name⟩, hm, rfl, he⟩ := this _ hq
  exact ⟨name, hm, he⟩

/-- The token of a literal goes from the quote that opens it to the one that closes it. -/
theorem token_of_closes (hd : source.toList.drop s = quote :: rest)
    (hc : Closes source s quote j) :
    Lexer.token kind s (quote :: (source.toList.drop (s + 1)).take (j + 1 - (s + 1))) =
      ⟨kind, slice source s (j + 1), s, j + 1⟩ := by
  have hafter := hc.after
  have hlt := (List.getElem?_eq_some_iff.mp hc.quote_at).1
  have hlen : (quote :: (source.toList.drop (s + 1)).take (j + 1 - (s + 1))).length =
      j + 1 - s := by
    rw [List.length_cons, List.length_take, List.length_drop]
    omega
  have hstarts : quote :: (source.toList.drop (s + 1)).take (j + 1 - (s + 1)) <+:
      source.toList.drop s := by
    rw [hd, (of_drop_eq_cons hd).2]
    exact (List.prefix_cons_inj quote).mpr (List.take_prefix _ _)
  have hstop : (s : Int) + (j + 1 - s : Nat) = j + 1 := by omega
  have htext := slice_of_starts hstarts
  rw [hlen, hstop] at htext
  rw [Lexer.token, hlen, hstop, ← htext]

theorem literalReply_nextToken (lexer : Lexer) (hf : lexer.finished = false)
    (hc : lexer.source.toList[lexer.cursor.position]? = some quote)
    (hq : (quote, kind) ∈ quotes) :
    LiteralReply lexer.source lexer.cursor.position quote kind lexer.nextToken.1 := by
  rw [← List.head?_drop] at hc
  obtain ⟨rest, hd⟩ := List.head?_eq_some_iff.mp hc
  have ha := lexer.drop_position.symm.trans hd
  have htail := tailFrom_quote (quote_ne_backslash hq) hd
  have hs := Lexer.step_nextToken lexer
  generalize lexer.nextToken.1 = reply at hs ⊢
  generalize lexer.nextToken.2 = next at hs
  cases hs with
  | stopped hf' => simp [hf] at hf'
  | exhausted _ ha' => simp [ha] at ha'
  | @delivered kind' word _ hlong =>
    rw [ha] at hlong
    cases ht : Lexer.literalTail quote false rest with
    | none => exact absurd hlong.starts (no_lexeme_of_literal hq ht hlong.lexeme)
    | some tail =>
      obtain ⟨rfl, rfl⟩ := longest_unique hlong (longest_of_literal hq ht)
      rw [ht] at htail
      cases htail with
      | @closed j hp hclose hfirst =>
        rw [token_of_closes hd hclose]
        refine .closed hclose ?_
        intro i hi hci
        exact hfirst i hci.after hi hci
  | @failed c rest' _ ha' hb =>
    obtain ⟨rfl, rfl⟩ := List.cons.inj (ha.symm.trans ha')
    obtain ⟨name, hname, hblame⟩ := exists_literalName hq
    rw [Lexer.errorAt, hblame]
    refine .unclosed hname ?_
    rcases barren_cons_iff.mp hb with hu | ⟨_, _, ht⟩
    · rw [charClass_of_mem_quotes hq] at hu
      cases hu
    · rw [ht] at htail
      cases htail with
      | unclosed hn =>
        intro j hcj
        exact hn j hcj.after hcj

/-- At a quote a lexer delivers the literal up to the first index that closes it, and fails exactly
if there is none. -/
theorem nextToken_at_quote (lexer : Lexer) (hf : lexer.finished = false)
    (hc : lexer.source.toList[lexer.cursor.position]? = some quote)
    (hq : (quote, kind) ∈ quotes) :
    LiteralReply lexer.source lexer.cursor.position quote kind lexer.nextToken.1 ∧
      ((∃ failure, lexer.nextToken.1 = .error failure) ↔
        ∀ j, ¬ Closes lexer.source lexer.cursor.position quote j) := by
  have hr := literalReply_nextToken lexer hf hc hq
  refine ⟨hr, ?_⟩
  generalize lexer.nextToken.1 = reply at hr
  cases hr with
  | closed hclose =>
    constructor
    · rintro ⟨failure, he⟩
      exact nomatch he
    · intro hn
      exact absurd hclose (hn _)
  | unclosed _ hn => exact ⟨fun _ => hn, fun _ => ⟨_, rfl⟩⟩

/-- An escaped quote and an escaped backslash are in front of the quote that closes the literal. -/
theorem nextToken_at_quote_of_escapes :
    let lexer := Lexer.ofSource "\"a\\\"\\\\\" b" true
    lexer.finished = false ∧ lexer.source.toList[lexer.cursor.position]? = some '"' ∧
      ('"', TokenKind.stringLiteral) ∈ quotes ∧
      LiteralReply lexer.source lexer.cursor.position '"' .stringLiteral lexer.nextToken.1 ∧
      ((∃ failure, lexer.nextToken.1 = .error failure) ↔
        ∀ j, ¬ Closes lexer.source lexer.cursor.position '"' j) := by
  intro lexer
  have hf : lexer.finished = false := rfl
  have hc : lexer.source.toList[lexer.cursor.position]? = some '"' := by decide
  have hq : ('"', TokenKind.stringLiteral) ∈ quotes := by decide
  exact ⟨hf, hc, hq, nextToken_at_quote lexer hf hc hq⟩

end TokenStream
