import TokenStream.Lexer.Calls
import TokenStream.Proofs.Lossless

/-!
Calls that share one lexer. In whatever order they come, each goes on where the one before it
stopped, and the stream ends in one of them.
-/
namespace TokenStream.Lexer

/-- A call that asks for tokens until there are none. -/
def Call.pullsAll : Call → Bool
  | nextToken | next => false
  | collect | loop => true

/-- The reply when the stream ends, to a call that took the given tokens. -/
def Call.last (c : Call) (tokens : List Token) : Option Failure → Reply
  | none =>
    match c with
    | nextToken => .noToken
    | next => .stop
    | collect | loop => .tokens tokens
  | some failure =>
    match c with
    | nextToken | next | collect => .failed [] failure
    | loop => .failed tokens failure

/-- After this reply the stream has ended. -/
def Reply.isLast : Reply → Bool
  | token _ => false
  | noToken | stop | tokens _ | failed _ _ => true

def Reply.raised? : Reply → Option Failure
  | failed _ failure => some failure
  | token _ | noToken | stop | tokens _ => none

/-- The tokens that a call produces, handed out or not. -/
def taken (lexer : Lexer) : Call → List Token
  | .nextToken | .next =>
    match lexer.nextToken.1 with
    | .ok (some token) => [token]
    | _ => []
  | .collect | .loop => lexer.drain.tokens

def takenBy (lexer : Lexer) : List Call → List Token
  | [] => []
  | c :: rest => lexer.taken c ++ (lexer.call c).2.takenBy rest

/-- What is reported at the end of a stream of `count` tokens. -/
def report (count : Nat) : Option Failure → List LogEntry
  | none => [.exhausted count]
  | some (.lexical e) => [.failed e.offset e.message]
  | some _ => []

/-- The message at the end of a stream. -/
def Drained.messages (stream : Drained) (filename : String) : List String :=
  match stream.failure with
  | none => [s!"{filename}: exhausted after {stream.tokens.length} tokens"]
  | some (.lexical e) => [s!"{filename}: lex error at offset {e.offset}: {e.message}"]
  | some _ => []

variable {lexer next : Lexer} {c : Call} {stream drained : Drained} {before tokens : List Token}
  {reply : Reply}

@[simp] theorem calls_nil (lexer : Lexer) : lexer.calls [] = ([], lexer) := rfl

@[simp] theorem calls_cons (lexer : Lexer) (cs : List Call) :
    lexer.calls (c :: cs) =
      ((lexer.call c).1 :: ((lexer.call c).2.calls cs).1, ((lexer.call c).2.calls cs).2) := rfl

@[simp] theorem takenBy_nil (lexer : Lexer) : lexer.takenBy [] = [] := rfl

@[simp] theorem takenBy_cons (lexer : Lexer) (cs : List Call) :
    lexer.takenBy (c :: cs) = lexer.taken c ++ (lexer.call c).2.takenBy cs := rfl

@[simp] theorem isLast_last (failure : Option Failure) : (c.last tokens failure).isLast = true := by
  cases failure <;> cases c <;> rfl

@[simp] theorem raised_last (failure : Option Failure) :
    (c.last tokens failure).raised? = failure := by
  cases failure <;> cases c <;> rfl

theorem drain_of_finished (hf : lexer.finished = true) : lexer.drain = ⟨[], none, lexer⟩ :=
  drain_of_none (by simp [nextToken, hf])

theorem finished_of_run (h : Run lexer drained) : drained.lexer.finished = true := by
  induction h with
  | ended h =>
    cases h with
    | stopped hf => exact hf
    | exhausted => rfl
  | failed h =>
    cases h
    rfl
  | delivered _ _ ih => exact ih

theorem log_of_run (h : Run lexer drained) (hf : lexer.finished = false) :
    drained.lexer.log =
      lexer.log ++ report (lexer.emitted + drained.tokens.length) drained.failure := by
  induction h with
  | ended h =>
    cases h with
    | stopped hf' => simp [hf] at hf'
    | exhausted => rfl
  | failed h =>
    cases h
    rfl
  | delivered h _ ih =>
    cases h
    simpa [Nat.add_assoc, Nat.add_comm 1] using ih hf

/-! ### One call -/

/-- All that a call may do to a lexer. -/
inductive Pull (lexer : Lexer) (c : Call) : List Token → Reply → Lexer → Prop
  | stopped (hf : lexer.finished = true) : Pull lexer c [] (c.last [] none) lexer
  | one {t : Token} {next : Lexer} (hf : lexer.finished = false) (hc : c.pullsAll = false)
    (h : lexer.nextToken = (.ok (some t), next)) : Pull lexer c [t] (.token t) next
  | rest (hf : lexer.finished = false) (hc : c.pullsAll = true ∨ lexer.drain.tokens = []) :
    Pull lexer c lexer.drain.tokens (c.last lexer.drain.tokens lexer.drain.failure)
      lexer.drain.lexer

theorem call_of_pullsAll (lexer : Lexer) (hc : c.pullsAll = true) :
    lexer.taken c = lexer.drain.tokens ∧
      lexer.call c = (c.last lexer.drain.tokens lexer.drain.failure, lexer.drain.lexer) := by
  cases c with
  | nextToken | next => simp [Call.pullsAll] at hc
  | collect | loop => cases he : lexer.drain.failure <;> simp [taken, call, collect, Call.last, he]

theorem call_of_token {t : Token} (hc : c.pullsAll = false)
    (h : lexer.nextToken = (.ok (some t), next)) :
    lexer.taken c = [t] ∧ lexer.call c = (.token t, next) := by
  cases c with
  | nextToken | next => simp [taken, call, h]
  | collect | loop => simp [Call.pullsAll] at hc

theorem call_of_none (hc : c.pullsAll = false) (h : lexer.nextToken = (.ok none, next)) :
    lexer.taken c = [] ∧ lexer.call c = (c.last [] none, next) := by
  cases c with
  | nextToken | next => simp [taken, call, Call.last, h]
  | collect | loop => simp [Call.pullsAll] at hc

theorem call_of_error {failure : Failure} (hc : c.pullsAll = false)
    (h : lexer.nextToken = (.error failure, next)) :
    lexer.taken c = [] ∧ lexer.call c = (c.last [] (some failure), next) := by
  cases c with
  | nextToken | next => simp [taken, call, Call.last, h]
  | collect | loop => simp [Call.pullsAll] at hc

theorem pull_call (lexer : Lexer) (c : Call) :
    Pull lexer c (lexer.taken c) (lexer.call c).1 (lexer.call c).2 := by
  by_cases hf : lexer.finished = true
  · have hn : lexer.taken c = [] ∧ lexer.call c = (c.last [] none, lexer) := by
      cases hc : c.pullsAll with
      | false => exact call_of_none hc (by simp [nextToken, hf])
      | true => simpa [drain_of_finished hf] using call_of_pullsAll lexer hc
    rw [hn.1, hn.2]
    exact .stopped hf
  · have hf : lexer.finished = false := by simpa using hf
    cases hc : c.pullsAll with
    | true =>
      obtain ⟨ht, hr⟩ := call_of_pullsAll lexer hc
      rw [ht, hr]
      exact .rest hf (.inl hc)
    | false =>
      rcases h : lexer.nextToken with ⟨failure | t | t, next⟩
      · obtain ⟨ht, hr⟩ := call_of_error hc h
        have hd := drain_of_error h
        have hp := Pull.rest (c := c) hf (.inr (congrArg Drained.tokens hd))
        simpa [ht, hr, hd] using hp
      · obtain ⟨ht, hr⟩ := call_of_none hc h
        have hd := drain_of_none h
        have hp := Pull.rest (c := c) hf (.inr (congrArg Drained.tokens hd))
        simpa [ht, hr, hd] using hp
      · obtain ⟨ht, hr⟩ := call_of_token hc h
        rw [ht, hr]
        exact .one hf hc h

/-! ### Any number of calls -/

/-- The place of a lexer in a stream of which the given tokens are taken. -/
inductive Place (stream : Drained) : List Token → Lexer → Prop
  | inside {before : List Token} {lexer : Lexer} (hf : lexer.finished = false)
    (ht : before ++ lexer.drain.tokens = stream.tokens)
    (he : lexer.drain.failure = stream.failure) (hn : lexer.emitted = before.length)
    (hl : lexer.log = []) : Place stream before lexer
  | behind {lexer : Lexer} (hf : lexer.finished = true)
    (hl : lexer.log = report stream.tokens.length stream.failure) :
    Place stream stream.tokens lexer

theorem place_ofSource (source : String) (keywordOperators : Bool) :
    Place (ofSource source keywordOperators).drain [] (ofSource source keywordOperators) :=
  .inside rfl rfl rfl rfl rfl

theorem place_pull (h : Place stream before lexer) (hp : Pull lexer c tokens reply next) :
    Place stream (before ++ tokens) next := by
  cases hp with
  | stopped hf =>
    rw [List.append_nil]
    exact h
  | one hf hc hn =>
    cases h with
    | behind hf' => simp [hf] at hf'
    | inside _ ht he hm hl =>
      rw [drain_of_some hn] at ht he
      cases step_of_nextToken hn with
      | delivered => exact .inside hf (by simpa using ht) he (by simp [hm]) hl
  | rest hf hc =>
    cases h with
    | behind hf' => simp [hf] at hf'
    | inside _ ht he hm hl =>
      -- what the lexer drains is all that is left of the stream
      rw [ht]
      refine .behind (finished_of_run (run_drain lexer)) ?_
      rw [log_of_run (run_drain lexer) hf, hl, hm, he, ← ht, List.length_append, List.nil_append]

theorem place_calls (h : Place stream before lexer) (cs : List Call) :
    Place stream (before ++ lexer.takenBy cs) (lexer.calls cs).2 := by
  induction cs generalizing lexer before with
  | nil => simpa using h
  | cons c rest ih =>
    rw [takenBy_cons, ← List.append_assoc]
    exact ih (place_pull h (pull_call lexer c))

theorem finished_pull (hp : Pull lexer c tokens reply next) :
    next.finished = (lexer.finished || reply.isLast) := by
  cases hp with
  | stopped hf => simp [hf]
  | one hf hc hn =>
    cases step_of_nextToken hn
    simp [hf, Reply.isLast]
  | rest => simp [finished_of_run (run_drain lexer)]

theorem finished_calls (lexer : Lexer) (cs : List Call) :
    (lexer.calls cs).2.finished =
      (lexer.finished || (lexer.calls cs).1.any Reply.isLast) := by
  induction cs generalizing lexer with
  | nil => simp
  | cons c rest ih =>
    have hc := finished_pull (pull_call lexer c)
    have hr := ih (lexer.call c).2
    simpa [hc, Bool.or_assoc] using hr

theorem prefix_of_place (h : Place stream before lexer) : before <+: stream.tokens := by
  cases h with
  | inside _ ht => exact ⟨_, ht⟩
  | behind => exact List.prefix_refl _

theorem log_of_place (h : Place stream before lexer) :
    lexer.log = if lexer.finished then report stream.tokens.length stream.failure else [] := by
  cases h with
  | inside hf _ _ _ hl => simp [hf, hl]
  | behind hf hl => simp [hf, hl]

/-- The error comes in the call that ends the stream. -/
theorem raised_pull (h : Place stream before lexer) (hp : Pull lexer c tokens reply next) :
    reply.raised? = if lexer.finished = next.finished then none else stream.failure := by
  have hf := finished_pull hp
  cases hp with
  | stopped => simp
  | one hf' => simp [hf, hf', Reply.isLast, Reply.raised?]
  | rest hf' =>
    cases h with
    | behind hf => simp [hf'] at hf
    | inside _ _ he => simp [hf, hf', he]

theorem raised_calls (h : Place stream before lexer) (cs : List Call) :
    (lexer.calls cs).1.filterMap Reply.raised? =
      if lexer.finished = (lexer.calls cs).2.finished then [] else stream.failure.toList := by
  induction cs generalizing lexer before with
  | nil => simp
  | cons c rest ih =>
    have hp := pull_call lexer c
    have hr := raised_pull h hp
    have hs := ih (place_pull h hp)
    have hf := finished_pull hp
    have hl := finished_calls (lexer.call c).2 rest
    simp only [calls_cons, List.filterMap_cons, hr, hs]
    cases hn : (lexer.call c).2.finished with
    | false =>
      have hf' : lexer.finished = false := by simp_all
      simp [hf']
    | true =>
      rw [hn, Bool.true_or] at hl
      cases hf' : lexer.finished <;> cases he : stream.failure <;> simp [hl]

theorem calls_append (lexer : Lexer) (cs cs' : List Call) :
    lexer.calls (cs ++ cs') =
      ((lexer.calls cs).1 ++ ((lexer.calls cs).2.calls cs').1,
        ((lexer.calls cs).2.calls cs').2) := by
  induction cs generalizing lexer with
  | nil => rfl
  | cons c rest ih => simp [ih]

theorem length_calls (lexer : Lexer) (cs : List Call) : (lexer.calls cs).1.length = cs.length := by
  induction cs generalizing lexer with
  | nil => rfl
  | cons c rest ih => simp [ih]

/-- A call behind the end of the stream. -/
theorem pull_behind (hp : Pull lexer c tokens reply next) (hf : lexer.finished = true) :
    tokens = [] ∧ reply = c.last [] none ∧ next.logSince lexer = [] := by
  cases hp with
  | stopped => exact ⟨rfl, rfl, List.drop_length⟩
  | one hf' => simp [hf] at hf'
  | rest hf' => simp [hf] at hf'

/-- A call that asks for more than one token, or for one behind all of them. -/
theorem pull_end (h : Place stream before lexer) (hp : Pull lexer c tokens reply next)
    (hf : lexer.finished = false) (hc : c.pullsAll = true ∨ before = stream.tokens) :
    before ++ tokens = stream.tokens ∧ reply = c.last tokens stream.failure ∧
      next.logSince lexer = report stream.tokens.length stream.failure := by
  cases h with
  | behind hf' => simp [hf] at hf'
  | inside _ ht he hn hl =>
    cases hp with
    | stopped hf' => simp [hf] at hf'
    | one _ hc' hn' =>
      rw [drain_of_some hn'] at ht
      simp [hc', ← ht] at hc
    | rest =>
      refine ⟨ht, by rw [he], ?_⟩
      rw [logSince, log_of_run (run_drain lexer) hf, List.drop_left, he, hn, ← ht,
        List.length_append]

/-- A call that asks for one token, and gets it. -/
theorem pull_inside (h : Place stream before lexer) (hp : Pull lexer c tokens reply next)
    (hf : lexer.finished = false) (hc : ¬ (c.pullsAll = true ∨ before = stream.tokens)) :
    ∃ t, tokens = [t] ∧ reply = .token t ∧ next.logSince lexer = [] := by
  cases hp with
  | stopped hf' => simp [hf] at hf'
  | one _ _ hn =>
    cases step_of_nextToken hn
    exact ⟨_, rfl, rfl, List.drop_length⟩
  | rest _ hc' =>
    cases h with
    | behind hf' => simp [hf] at hf'
    | inside _ ht =>
      rcases hc' with hc' | hc'
      · exact (hc (.inl hc')).elim
      · rw [hc', List.append_nil] at ht
        exact (hc (.inr ht)).elim

theorem render_report (filename : String) :
    (report stream.tokens.length stream.failure).map (LogEntry.render filename) =
      stream.messages filename := by
  unfold report Drained.messages
  split <;> rfl

theorem takenBy_append (lexer : Lexer) (cs cs' : List Call) :
    lexer.takenBy (cs ++ cs') = lexer.takenBy cs ++ (lexer.calls cs).2.takenBy cs' := by
  induction cs generalizing lexer with
  | nil => rfl
  | cons c rest ih => simp [ih]

/-- However the calls are mixed, the tokens come once, and the stream ends once. -/
theorem calls_share_stream (source filename : String) (keywordOperators : Bool) (cs : List Call) :
    let first := ofSource source keywordOperators
    let stream := first.drain
    let replies := (first.calls cs).1
    let final := (first.calls cs).2
    let ended := replies.any Reply.isLast
    (stream.messages filename).length = 1 ∧
    first.takenBy cs <+: stream.tokens ∧
    replies.filterMap Reply.raised? = (if ended then stream.failure.toList else []) ∧
    final.log.map (LogEntry.render filename) = (if ended then stream.messages filename else []) ∧
    ∀ before c after, cs = before ++ c :: after →
      let lexer := (first.calls before).2
      let reply := (lexer.call c).1
      let next := (lexer.call c).2
      replies[before.length]? = some reply ∧
      first.takenBy (before ++ [c]) = first.takenBy before ++ lexer.taken c ∧
      if (first.calls before).1.any Reply.isLast then
        lexer.taken c = [] ∧ reply = c.last [] none ∧ next.logSince lexer = []
      else if c.pullsAll ∨ first.takenBy before = stream.tokens then
        first.takenBy before ++ lexer.taken c = stream.tokens ∧
          reply = c.last (lexer.taken c) stream.failure ∧
          (next.logSince lexer).map (LogEntry.render filename) = stream.messages filename
      else
        ∃ t, lexer.taken c = [t] ∧ reply = .token t ∧ next.logSince lexer = [] := by
  intro first stream replies final ended
  have hp : Place stream [] first := place_ofSource source keywordOperators
  have hf : final.finished = ended := finished_calls first cs
  have hl : Place stream (first.takenBy cs) final := place_calls hp cs
  refine ⟨?_, prefix_of_place hl, ?_, ?_, ?_⟩
  · obtain ⟨last, -, ⟨he, -⟩ | ⟨⟨c, he⟩, -⟩⟩ :=
      tiles_of_stream (stream_drain source keywordOperators) <;>
    simp [Drained.messages, stream, first, he]
  · have hr : replies.filterMap Reply.raised? =
        if false = final.finished then [] else stream.failure.toList := raised_calls hp cs
    rw [hr, hf]
    cases ended <;> rfl
  · rw [log_of_place hl, hf, ← render_report]
    cases ended <;> rfl
  · rintro before c after rfl
    intro lexer reply next
    have hb : Place stream (first.takenBy before) lexer := place_calls hp before
    have hc : Pull lexer c (lexer.taken c) reply next := pull_call lexer c
    have hfl : lexer.finished = (first.calls before).1.any Reply.isLast :=
      finished_calls first before
    refine ⟨?_, ?_, ?_⟩
    · simp [replies, calls_append, length_calls, reply, lexer]
    · simp [takenBy_append, lexer]
    · rw [← hfl]
      cases hfin : lexer.finished with
      | true => exact pull_behind hc hfin
      | false =>
        by_cases hrest : c.pullsAll = true ∨ first.takenBy before = stream.tokens
        · obtain ⟨ht, hr, hm⟩ := pull_end hb hc hfin hrest
          rw [if_pos hrest, hm, render_report]
          exact ⟨ht, hr, rfl⟩
        · rw [if_neg hrest]
          exact pull_inside hb hc hfin hrest

end TokenStream.Lexer
