import TokenStream.Proofs.SharedStream

/-!
Where calls for a token leave a lexer. As long as tokens come, the cursor stands behind all of their
texts. The call that ends the stream leaves it at the end of the source, or behind the one character
that starts no token, and after that call nothing changes.
-/
namespace TokenStream.Lexer

/-- What a call for a token answers. -/
abbrev Answer := Except Failure (Option Token)

/-- So many calls for a token: their answers, oldest first, and the lexer after them. -/
def pulls (lexer : Lexer) : Nat → List Answer × Lexer
  | 0 => ([], lexer)
  | n + 1 =>
    let earlier := lexer.pulls n
    let last := earlier.2.nextToken
    (earlier.1 ++ [last.1], last.2)

/-- The number of characters in the texts of tokens. -/
def extent : List Token → Nat
  | [] => 0
  | t :: rest => t.text.length + extent rest

/-- The answers that are the given tokens. -/
def handedOut (tokens : List Token) : List Answer := tokens.map fun t => .ok (some t)

/-- The answer that ends the stream behind the given tokens, and where it leaves the cursor. -/
inductive EndsAt (source : String) (tokens : List Token) : Answer → Nat → Prop
  | exhausted (hm : extent tokens = source.length) :
    EndsAt source tokens (.ok none) source.length
  | unrecognized (characters : String) :
    EndsAt source tokens (.error (.lexical ⟨.unrecognized characters, extent tokens, source⟩))
      (extent tokens + 1)
  | unterminated (message : String) (kind : Option TokenKind) :
    EndsAt source tokens
      (.error (.lexical ⟨.unterminated message kind, extent tokens, source⟩)) source.length

/-- Where a lexer stands after some answers, of which the given tokens are the first. -/
inductive Standing (source : String) (tokens : List Token) (lexer : Lexer) : List Answer → Prop
  /-- All answers were tokens. -/
  | reading (hf : lexer.finished = false) (hp : lexer.cursor.position = extent tokens)
    (hs : ∀ t, tokens.getLast? = some t → t.stop = extent tokens) :
    Standing source tokens lexer (handedOut tokens)
  /-- The stream ended behind the tokens, and was asked `n` times more. -/
  | ended {last : Answer} (n : Nat) (hf : lexer.finished = true)
    (he : EndsAt source tokens last lexer.cursor.position) :
    Standing source tokens lexer (handedOut tokens ++ last :: List.replicate n (.ok none))

/-- What holds of a lexer of the source after every call. -/
structure Account (source : String) (tokens : List Token) (lexer : Lexer)
    (answers : List Answer) : Prop where
  standing : Standing source tokens lexer answers
  elements_eq : lexer.cursor.elements = source.toList
  emitted_eq : lexer.emitted = tokens.length
  /-- Each token took a character at least. -/
  length_le : tokens.length ≤ lexer.cursor.position

variable {source : String} {tokens : List Token} {lexer next : Lexer} {t : Token}
  {answer : Answer} {answers : List Answer} {failure : Failure}

theorem extent_concat : extent (tokens ++ [t]) = extent tokens + t.text.length := by
  induction tokens with
  | nil => simp [extent]
  | cons u rest ih => rw [List.cons_append, extent, extent, ih, Nat.add_assoc]

theorem handedOut_concat : handedOut (tokens ++ [t]) = handedOut tokens ++ [.ok (some t)] := by
  simp [handedOut]

theorem position_le_length (h : lexer.cursor.elements = source.toList) :
    lexer.cursor.position ≤ source.length := by
  rw [← String.length_toList, ← h, Cursor.length_elements, Cursor.length]
  exact Nat.le_add_right _ _

/-- A lexer that is not finished has answered with tokens only. -/
theorem reading_of_standing (h : Standing source tokens lexer answers)
    (hf : lexer.finished = false) :
    answers = handedOut tokens ∧ lexer.cursor.position = extent tokens := by
  cases h with
  | reading _ hp => exact ⟨rfl, hp⟩
  | ended _ hf' => simp [hf] at hf'

/-! ### One call -/

/-- A lexer that hands out a token moves behind the text of the token. -/
structure Delivers (lexer : Lexer) (t : Token) (next : Lexer) : Prop where
  length_pos : 0 < t.text.length
  position_eq : next.cursor.position = lexer.cursor.position + t.text.length
  stop_eq : t.stop = next.cursor.position
  elements_eq : next.cursor.elements = lexer.cursor.elements
  unfinished : lexer.finished = false ∧ next.finished = false
  emitted_eq : next.emitted = lexer.emitted + 1

theorem delivers_of_step (h : Step lexer (.ok (some t)) next) : Delivers lexer t next := by
  cases h with
  | @delivered kind word hf h =>
    have hl : (token kind lexer.cursor.position word).text.length = word.length :=
      String.length_ofList
    have hp := position_skip_longest h
    exact {
      length_pos := by
        rw [hl]
        exact List.length_pos_iff.mpr (lexeme_ne_nil h.lexeme)
      position_eq := by
        rw [hl]
        exact hp
      stop_eq := by
        rw [hp]
        rfl
      elements_eq := Cursor.elements_skip
      unfinished := ⟨hf, hf⟩
      emitted_eq := rfl }

theorem account_delivered (h : Account source tokens lexer answers) (hd : Delivers lexer t next) :
    Account source (tokens ++ [t]) next (answers ++ [.ok (some t)]) := by
  obtain ⟨rfl, hp⟩ := reading_of_standing h.standing hd.unfinished.1
  have hx : next.cursor.position = extent (tokens ++ [t]) := by
    rw [hd.position_eq, hp, extent_concat]
  refine ⟨?_, hd.elements_eq.trans h.elements_eq, ?_, ?_⟩
  · rw [← handedOut_concat]
    refine .reading hd.unfinished.2 hx ?_
    intro u hu
    obtain rfl : t = u := by simpa using hu
    rw [hd.stop_eq, hx]
  · rw [hd.emitted_eq, h.emitted_eq, List.length_append, List.length_singleton]
  · have := h.length_le
    have := hd.length_pos
    have := hd.position_eq
    rw [List.length_append, List.length_singleton]
    omega

/-- A lexer that ends its stream hands out nothing, and only the cursor may move. -/
theorem account_ended (h : Account source tokens lexer answers) (hf : lexer.finished = false)
    (hn : next.finished = true) (he : EndsAt source tokens answer next.cursor.position)
    (hc : next.cursor.elements = lexer.cursor.elements) (hm : next.emitted = lexer.emitted)
    (hp : lexer.cursor.position ≤ next.cursor.position) :
    Account source tokens next (answers ++ [answer]) := by
  obtain ⟨rfl, -⟩ := reading_of_standing h.standing hf
  exact ⟨.ended 0 hn he, hc.trans h.elements_eq, hm.trans h.emitted_eq,
    Nat.le_trans h.length_le hp⟩

theorem account_stopped (h : Account source tokens lexer answers) (hf : lexer.finished = true) :
    Account source tokens lexer (answers ++ [.ok none]) := by
  refine ⟨?_, h.elements_eq, h.emitted_eq, h.length_le⟩
  cases h.standing with
  | reading hf' => simp [hf] at hf'
  | ended n _ he =>
    rw [List.append_assoc, List.cons_append, ← List.replicate_succ']
    exact .ended (n + 1) hf he

/-- A character that no token starts with ends the stream: behind itself, or at the end of the
source if it is a quote. -/
theorem endsAt_of_barren {kw : Bool} {c : Char} {rest : List Char} {n : Nat}
    (hl : extent tokens + (rest.length + 1) = source.length) (hb : Barren kw (c :: rest))
    (hn : n = extent tokens + 1 + searched c rest) :
    EndsAt source tokens (.error (.lexical ⟨blame c, extent tokens, source⟩)) n := by
  rcases blame_of_barren hb with ⟨hu, hs⟩ | ⟨kind, -, hu, hs⟩
  · obtain rfl : n = extent tokens + 1 := by omega
    rw [hu]
    exact .unrecognized _
  · obtain rfl : n = source.length := by omega
    rw [hu]
    exact .unterminated _ _

theorem account_exhausted (h : Account source tokens lexer answers)
    (hs : Step lexer (.ok none) next) (hf : lexer.finished = false) :
    Account source tokens next (answers ++ [.ok none]) := by
  cases hs with
  | stopped hf' => simp [hf] at hf'
  | exhausted _ ha =>
    have hl : lexer.cursor.position = source.length := by
      rw [position_of_ahead_nil ha, Lexer.source, h.elements_eq, String.ofList_toList]
    obtain ⟨-, hp⟩ := reading_of_standing h.standing hf
    refine account_ended h hf rfl ?_ rfl rfl (Nat.le_refl _)
    rw [hl]
    exact .exhausted (hp.symm.trans hl)

theorem account_failed (h : Account source tokens lexer answers)
    (hs : Step lexer (.error failure) next) :
    Account source tokens next (answers ++ [.error failure]) := by
  cases hs with
  | @failed c rest hf ha hb =>
    obtain ⟨-, hp⟩ := reading_of_standing h.standing hf
    have hl : extent tokens + (rest.length + 1) = source.length := by
      have hc := lexer.cursor.length_elements
      rw [h.elements_eq, String.length_toList, Cursor.length, hp, ha, List.length_cons] at hc
      exact hc.symm
    have hn : (lexer.cursor.skip (1 + searched c rest)).position =
        extent tokens + 1 + searched c rest := by
      have hle : 1 + searched c rest ≤ lexer.cursor.ahead.length := by
        rw [ha, List.length_cons, searched]
        split <;> omega
      rw [Cursor.position_skip, Nat.min_eq_left hle, hp, Nat.add_assoc]
    refine account_ended h hf rfl ?_ Cursor.elements_skip rfl ?_
    · rw [errorAt, hp, h.elements_eq, String.ofList_toList]
      exact endsAt_of_barren hl hb hn
    · rw [Cursor.position_skip]
      exact Nat.le_add_right _ _

theorem exists_account_step (h : Account source tokens lexer answers)
    (hs : Step lexer answer next) :
    ∃ tokens', Account source tokens' next (answers ++ [answer]) := by
  rcases answer with failure | none | t
  · exact ⟨tokens, account_failed h hs⟩
  · cases hf : lexer.finished with
    | false => exact ⟨tokens, account_exhausted h hs hf⟩
    | true =>
      cases hs with
      | stopped => exact ⟨tokens, account_stopped h hf⟩
      | exhausted hf' => simp [hf] at hf'
  · exact ⟨tokens ++ [t], account_delivered h (delivers_of_step hs)⟩

/-! ### Any number of calls -/

theorem account_ofSource (source : String) (keywordOperators : Bool) :
    Account source [] (ofSource source keywordOperators) [] where
  standing := .reading rfl rfl (by simp)
  elements_eq := rfl
  emitted_eq := rfl
  length_le := Nat.le_refl _

theorem exists_account (source : String) (keywordOperators : Bool) (n : Nat) :
    ∃ tokens, Account source tokens ((ofSource source keywordOperators).pulls n).2
      ((ofSource source keywordOperators).pulls n).1 := by
  induction n with
  | zero => exact ⟨[], account_ofSource source keywordOperators⟩
  | succ n ih =>
    obtain ⟨tokens, h⟩ := ih
    exact exists_account_step h (step_nextToken _)

/-- After any number of calls for a token: what the answers were, where the cursor stands and how
many tokens were counted. A finished lexer stays as it is, and one that hands out a token moves by
the length of its text. -/
theorem pulls_keep_account (source : String) (keywordOperators : Bool) (n : Nat) :
    let answers := ((ofSource source keywordOperators).pulls n).1
    let lexer := ((ofSource source keywordOperators).pulls n).2
    (∃ tokens, Standing source tokens lexer answers ∧ lexer.emitted = tokens.length ∧
      tokens.length ≤ source.length) ∧
    (lexer.finished = true → ∀ c : Call, (lexer.call c).2 = lexer) ∧
    ∀ t, lexer.nextToken.1 = .ok (some t) →
      lexer.nextToken.2.cursor.position = lexer.cursor.position + t.text.length ∧
        lexer.cursor.position < lexer.nextToken.2.cursor.position := by
  intro answers lexer
  obtain ⟨tokens, h⟩ := exists_account source keywordOperators n
  refine ⟨⟨tokens, h.standing, h.emitted_eq, ?_⟩, ?_, ?_⟩
  · exact Nat.le_trans h.length_le (position_le_length h.elements_eq)
  · intro hf c
    have hp := pull_call lexer c
    generalize (lexer.call c).1 = reply, (lexer.call c).2 = next, lexer.taken c = taken at hp ⊢
    cases hp with
    | stopped => rfl
    | one hf' | rest hf' => simp [hf] at hf'
  · intro t ht
    have hs := step_nextToken lexer
    rw [ht] at hs
    have hd := delivers_of_step hs
    have := hd.length_pos
    have := hd.position_eq
    exact ⟨hd.position_eq, by omega⟩

end TokenStream.Lexer
