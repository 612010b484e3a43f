import TokenStream.Proofs.Scan

/-!
Lexers step by step. A step delivers the longest token of the text ahead, or ends the stream: at the
end of the source, or at a character that no token starts with. So the stream of a lexer is the one
of the longest-match tokenizer.
-/
namespace TokenStream.Lexer

variable {lexer next : Lexer} {t : Token} {failure : Failure}

/-- The error at the character `c` if that is the next one. -/
def errorAt (lexer : Lexer) (c : Char) : LexError :=
  ⟨blame c, lexer.cursor.position, String.ofList lexer.cursor.elements⟩

/-- All that a lexer may do when it is asked for a token. -/
inductive Step (lexer : Lexer) : Except Failure (Option Token) → Lexer → Prop
  | stopped (hf : lexer.finished = true) : Step lexer (.ok none) lexer
  | exhausted (hf : lexer.finished = false) (ha : lexer.cursor.ahead = []) :
    Step lexer (.ok none)
      { lexer with finished := true, log := lexer.log ++ [.exhausted lexer.emitted] }
  | delivered {kind : TokenKind} {word : List Char} (hf : lexer.finished = false)
    (h : Longest lexer.keywordOperators kind word lexer.cursor.ahead) :
    Step lexer (.ok (some (token kind lexer.cursor.position word)))
      { lexer with cursor := lexer.cursor.skip word.length, emitted := lexer.emitted + 1 }
  | failed {c : Char} {rest : List Char} (hf : lexer.finished = false)
    (ha : lexer.cursor.ahead = c :: rest) (h : Barren lexer.keywordOperators (c :: rest)) :
    Step lexer (.error (.lexical (lexer.errorAt c)))
      { lexer with
        cursor := lexer.cursor.skip (1 + searched c rest), finished := true,
        log := lexer.log ++ [.failed lexer.cursor.position (blame c).message] }

theorem step_nextToken (lexer : Lexer) : Step lexer lexer.nextToken.1 lexer.nextToken.2 := by
  by_cases hf : lexer.finished = true
  · simpa [nextToken, hf] using Step.stopped hf
  · have hf : lexer.finished = false := by simpa using hf
    cases ha : lexer.cursor.ahead with
    | nil =>
      have he := Cursor.advance?_eq_none_iff.mpr ha
      simpa [nextToken, hf, he] using Step.exhausted hf ha
    | cons c rest =>
      have he := Cursor.advance?_of_ahead ha
      have hb := Cursor.behind_of_advance? he
      have hr : (lexer.cursor.skip 1).ahead = rest := by simp [ha]
      have hs := scanned_scan lexer.keywordOperators lexer.cursor.position hb
      generalize hsc : scan lexer.keywordOperators c lexer.cursor.position (lexer.cursor.skip 1) = s
        at hs
      cases hs with
      | @token kind tail h =>
        rw [hr, ← ha] at h
        have hd := Step.delivered hf h
        simpa [nextToken, hf, he, ha, hsc, Cursor.skip_skip, Nat.add_comm] using hd
      | fault h =>
        rw [hr] at h
        have hd := Step.failed hf ha h
        simpa [nextToken, hf, he, ha, hsc, fail, errorAt, LexError.message, Cursor.elements_skip,
          Cursor.skip_skip] using hd

theorem step_of_nextToken {reply : Except Failure (Option Token)}
    (h : lexer.nextToken = (reply, next)) : Step lexer reply next := by
  have hs := step_nextToken lexer
  rwa [h] at hs

/-! ### Whole streams -/

theorem drain_of_none (h : lexer.nextToken = (.ok none, next)) :
    lexer.drain = ⟨[], none, next⟩ := by
  rw [drain]
  split <;> simp_all

theorem drain_of_error (h : lexer.nextToken = (.error failure, next)) :
    lexer.drain = ⟨[], some failure, next⟩ := by
  rw [drain]
  split <;> simp_all

theorem drain_of_some (h : lexer.nextToken = (.ok (some t), next)) :
    lexer.drain = { next.drain with tokens := t :: next.drain.tokens } := by
  rw [drain]
  split <;> simp_all

/-- The steps of a lexer up to the end of its stream. -/
inductive Run : Lexer → Drained → Prop
  | ended {lexer next : Lexer} (h : Step lexer (.ok none) next) : Run lexer ⟨[], none, next⟩
  | failed {lexer next : Lexer} {failure : Failure} (h : Step lexer (.error failure) next) :
    Run lexer ⟨[], some failure, next⟩
  | delivered {lexer next : Lexer} {t : Token} {drained : Drained}
    (h : Step lexer (.ok (some t)) next) (hr : Run next drained) :
    Run lexer { drained with tokens := t :: drained.tokens }

theorem run_drain (lexer : Lexer) : Run lexer lexer.drain := by
  induction lexer using drain.induct with
  | case1 lexer next h =>
    rw [drain_of_none h]
    exact .ended (step_of_nextToken h)
  | case2 lexer failure next h =>
    rw [drain_of_error h]
    exact .failed (step_of_nextToken h)
  | case3 lexer t next h hlt ih =>
    rw [drain_of_some h]
    exact .delivered (step_of_nextToken h) ih

/-- The stream of the longest-match tokenizer from the offset `s` of the source on: its tokens, and
what ends it if not the end of the source. -/
inductive Stream (keywordOperators : Bool) (source : String) :
    Nat → List Token → Option Failure → Prop
  | finished : Stream keywordOperators source source.length [] none
  | token {s : Nat} {kind : TokenKind} {word : List Char} {tokens : List Token}
    {ending : Option Failure} (h : Longest keywordOperators kind word (source.toList.drop s))
    (hs : Stream keywordOperators source (s + word.length) tokens ending) :
    Stream keywordOperators source s
      (⟨kind, String.ofList word, s, s + word.length⟩ :: tokens) ending
  | failed {s : Nat} {c : Char} {rest : List Char} (hd : source.toList.drop s = c :: rest)
    (h : Barren keywordOperators (c :: rest)) :
    Stream keywordOperators source s [] (some (.lexical ⟨blame c, s, source⟩))

/-- The source of a lexer. -/
def source (lexer : Lexer) : String := String.ofList lexer.cursor.elements

theorem drop_position (lexer : Lexer) :
    lexer.source.toList.drop lexer.cursor.position = lexer.cursor.ahead := by
  simp [source, Cursor.drop_position]

theorem position_of_ahead_nil (ha : lexer.cursor.ahead = []) :
    lexer.cursor.position = lexer.source.length := by
  simp [source, Cursor.length_elements, Cursor.length, ha]

/-- The lexer moves on by the length of the longest token. -/
theorem position_skip_longest {kw : Bool} {kind : TokenKind} {word : List Char}
    (h : Longest kw kind word lexer.cursor.ahead) :
    (lexer.cursor.skip word.length).position = lexer.cursor.position + word.length := by
  rw [Cursor.position_skip, Nat.min_eq_left h.starts.length_le]

theorem stream_of_run {drained : Drained} (h : Run lexer drained) (hf : lexer.finished = false) :
    Stream lexer.keywordOperators lexer.source lexer.cursor.position drained.tokens
      drained.failure := by
  induction h with
  | ended h =>
    cases h with
    | stopped hf' => simp [hf] at hf'
    | exhausted _ ha =>
      rw [position_of_ahead_nil ha]
      exact .finished
  | failed h =>
    cases h with
    | failed _ ha hb =>
      rw [← drop_position] at ha
      exact .failed ha hb
  | @delivered lexer _ _ _ h _ ih =>
    cases h with
    | delivered _ h =>
      have hs := ih hf
      simp only [source, Cursor.elements_skip, position_skip_longest h] at hs
      rw [← lexer.drop_position] at h
      exact .token h hs

theorem stream_drain (source : String) (keywordOperators : Bool) :
    Stream keywordOperators source 0 (ofSource source keywordOperators).drain.tokens
      (ofSource source keywordOperators).drain.failure := by
  have h := stream_of_run (run_drain (ofSource source keywordOperators)) rfl
  simpa [ofSource, Lexer.source, Cursor.ofList, Cursor.elements] using h

theorem drop_length (source : String) : source.toList.drop source.length = [] := by
  exact List.drop_eq_nil_of_le (Nat.le_of_eq String.length_toList)

theorem lt_length_of_drop {source : String} {s : Nat} {c : Char} {rest : List Char}
    (hd : source.toList.drop s = c :: rest) : s < source.length := by
  have hl := congrArg List.length hd
  rw [List.length_drop, String.length_toList, List.length_cons] at hl
  omega

/-- The text fixes the stream. -/
theorem stream_unique {kw : Bool} {source : String} {s : Nat} {tokens tokens' : List Token}
    {ending ending' : Option Failure} (h : Stream kw source s tokens ending)
    (h' : Stream kw source s tokens' ending') : tokens = tokens' ∧ ending = ending' := by
  induction h generalizing tokens' with
  | finished =>
    generalize hn : source.length = n at h'
    have hd := drop_length source
    rw [hn] at hd
    cases h' with
    | finished => exact ⟨rfl, rfl⟩
    | token h' => exact (not_longest_nil (hd ▸ h')).elim
    | failed hd' => simp [hd] at hd'
  | token h _ ih =>
    cases h' with
    | finished => exact (not_longest_nil (drop_length source ▸ h)).elim
    | token h' hs' =>
      obtain ⟨rfl, rfl⟩ := longest_unique h h'
      obtain ⟨rfl, rfl⟩ := ih hs'
      exact ⟨rfl, rfl⟩
    | failed hd hb => exact (hb _ _ h.lexeme (hd ▸ h.starts)).elim
  | failed hd hb =>
    cases h' with
    | finished => simp [drop_length] at hd
    | token h' => exact (hb _ _ h'.lexeme (hd ▸ h'.starts)).elim
    | failed hd' _ =>
      obtain ⟨rfl, rfl⟩ := by simpa [hd] using hd'
      exact ⟨rfl, rfl⟩

theorem lexeme_of_stream {kw : Bool} {source : String} {s : Nat} {tokens : List Token}
    {ending : Option Failure} (h : Stream kw source s tokens ending) :
    ∀ t ∈ tokens, Lexeme kw t.kind t.text.toList := by
  induction h with
  | finished | failed => simp
  | token h _ ih =>
    refine List.forall_mem_cons.mpr ⟨?_, ih⟩
    simpa using h.lexeme

/-- Pulling tokens up to the end gives the stream of the longest-match tokenizer and no other. -/
theorem drain_iff_longest_match (source : String) (keywordOperators : Bool) (tokens : List Token)
    (ending : Option Failure) :
    (ofSource source keywordOperators).drain.tokens = tokens ∧
        (ofSource source keywordOperators).drain.failure = ending ↔
      Stream keywordOperators source 0 tokens ending := by
  constructor
  · rintro ⟨rfl, rfl⟩
    exact stream_drain source keywordOperators
  · exact stream_unique (stream_drain source keywordOperators)

/-- A stream that fails does so at a character that no token starts with. -/
theorem stop_of_stream {kw : Bool} {source : String} {s : Nat} {tokens : List Token}
    (h : Stream kw source s tokens (some failure)) :
    ∃ s c rest, source.toList.drop s = c :: rest ∧ Barren kw (c :: rest) ∧
      failure = .lexical ⟨blame c, s, source⟩ := by
  generalize he : some failure = ending at h
  induction h with
  | finished => simp at he
  | token _ _ ih => exact ih he
  | failed hd hb =>
    obtain rfl := Option.some.inj he
    exact ⟨_, _, _, hd, hb, rfl⟩

end TokenStream.Lexer

/-! ### Whole sources -/

namespace TokenStream

variable {kw : Bool} {source : String} {tokens : List Token} {ending : Option Failure}

/-- All tokens of a stream, or what it fails with. -/
def allOrFailure (tokens : List Token) : Option Failure → Except Failure (List Token)
  | none => .ok tokens
  | some failure => .error failure

theorem tokenize_of_stream (h : Lexer.Stream kw source 0 tokens ending) :
    tokenize source kw = allOrFailure tokens ending := by
  obtain ⟨ht, he⟩ := Lexer.stream_unique (Lexer.stream_drain source kw) h
  simp only [tokenize, Lexer.collect, ht, he]
  cases ending <;> rfl

/-- A source that is one token. -/
theorem tokenize_of_longest {kind : TokenKind} (h : Longest kw kind source.toList source.toList) :
    tokenize source kw = .ok [⟨kind, source, 0, source.length⟩] := by
  have hs : Lexer.Stream kw source (0 + source.toList.length) [] none := by
    rw [Nat.zero_add, String.length_toList]
    exact .finished
  have h : Longest kw kind source.toList (source.toList.drop 0) := h
  have ht := tokenize_of_stream (.token h hs)
  simpa [allOrFailure, ← String.length_toList] using ht

/-- All that lexing a source may come to. -/
inductive Lexed (keywordOperators : Bool) (source : String) : Except Failure (List Token) → Prop
  | whole {tokens : List Token} (hs : Lexer.Stream keywordOperators source 0 tokens none) :
    Lexed keywordOperators source (.ok tokens)
  | stopped {s : Nat} {c : Char} {rest : List Char} (hd : source.toList.drop s = c :: rest)
    (hb : Barren keywordOperators (c :: rest)) :
    Lexed keywordOperators source (.error (.lexical ⟨blame c, s, source⟩))

theorem lexed_tokenize (source : String) (kw : Bool) : Lexed kw source (tokenize source kw) := by
  have hs := Lexer.stream_drain source kw
  rw [tokenize_of_stream hs]
  generalize (Lexer.ofSource source kw).drain.failure = ending at hs
  cases ending with
  | none => exact .whole hs
  | some failure =>
    obtain ⟨s, c, rest, hd, hb, rfl⟩ := Lexer.stop_of_stream hs
    exact .stopped hd hb

theorem lexed_of_tokenize {result : Except Failure (List Token)} (h : tokenize source kw = result) :
    Lexed kw source result := by
  subst h
  exact lexed_tokenize source kw

end TokenStream
