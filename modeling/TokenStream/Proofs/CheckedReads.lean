import TokenStream.Proofs.SharedStream

/-!
The reads of a lexer. A lexer looks at the current and the next character of its cursor and looks
characters up in tables, and each of these may fail by itself. Here the lexer is written with every
such read where it is made: it comes to the same, so none of them fails, and all that a source makes
a lexer raise is a fault of that source.
-/
namespace TokenStream

/-- The failures that a source is at fault for: a character that starts no token, and a literal that
is not closed. -/
inductive Failure.OfSource (source : String) : Failure → Prop
  | unrecognized (c : Char) (offset : Int) :
    OfSource source (.lexical ⟨.unrecognized (String.ofList [c]), offset, source⟩)
  | unterminated {quote : Char} {kind : TokenKind} (h : (quote, kind) ∈ quotes) (offset : Int) :
    OfSource source (.lexical ⟨.unclosed kind, offset, source⟩)

/-- Token kinds of the quotes themselves. -/
def quoteKinds : List TokenKind := [.doubleQuote, .singleQuote]

namespace Lexer

/-! ### The lexer with its reads -/

/-- The characters of a literal up to its closing quote, each looked at after the step onto it. -/
def checkedLiteralTail (kind : TokenKind) (quote : Char) (start : Nat) (characters : List Char)
    (escaped : Bool) (c : Cursor Char) : Scan :=
  match h : c.advance? with
  | none => (.error (.lexical ⟨.unclosed kind, start, String.ofList c.elements⟩), c)
  | some (_, next) =>
    have : next.ahead.length < c.ahead.length := by simp [Cursor.ahead_of_advance? h]
    match next.current with
    | .error e => (.error (.outOfRange e), next)
    | .ok ch =>
      let read := characters ++ [ch]
      if escaped then checkedLiteralTail kind quote start read false next
      else if ch = '\\' then checkedLiteralTail kind quote start read true next
      else if ch = quote then (.ok ⟨kind, String.ofList read, start, next.position⟩, next)
      else checkedLiteralTail kind quote start read false next
termination_by c.ahead.length

def checkedLiteral (quote : Char) (start : Nat) (c : Cursor Char) : Scan :=
  match quotes.lookup quote with
  | none => (.error (.noEntry quote), c)
  | some kind => checkedLiteralTail kind quote start [quote] false c

/-- The second character of an operator is looked at ahead, and again after the step onto it. -/
def checkedOperator (ch : Char) (start : Nat) (c : Cursor Char) : Scan :=
  if c.atEnd then scanSymbol ch start c
  else
    match operators.lookup ch with
    | none => (.error (.noEntry ch), c)
    | some seconds =>
      match c.peek 1 with
      | .error e => (.error (.outOfRange e), c)
      | .ok second =>
        match seconds.lookup second with
        | none => scanSymbol ch start c
        | some kind =>
          match (c.skip 1).current with
          | .error e => (.error (.outOfRange e), c.skip 1)
          | .ok second => (.ok ⟨kind, String.ofList [ch, second], start, start + 2⟩, c.skip 1)

def checkedScan (keywordOperators : Bool) (ch : Char) (start : Nat) (c : Cursor Char) : Scan :=
  if isSpace ch then scanRun .whitespace isSpace start c
  else if ch = '\t' then scanRun .tab (· == '\t') start c
  else if newlines.contains ch then scanRun .newline newlines.contains start c
  else if (quotes.lookup ch).isSome then checkedLiteral ch start c
  else if isIdentStart ch then scanWord keywordOperators start c
  else if isDigit ch then scanRun .numericLiteral isDigit start c
  else if (operators.lookup ch).isSome then checkedOperator ch start c
  else if (symbols.lookup ch).isSome then scanSymbol ch start c
  else
    (.error (.lexical ⟨.unrecognized (String.ofList [ch]), start, String.ofList c.elements⟩), c)

def checkedNextToken (lexer : Lexer) : Except Failure (Option Token) × Lexer :=
  if lexer.finished then (.ok none, lexer)
  else
    match lexer.cursor.advance? with
    | none =>
      (.ok none,
        { lexer with finished := true, log := lexer.log ++ [.exhausted lexer.emitted] })
    | some (ch, c) =>
      match checkedScan lexer.keywordOperators ch (c.position - 1) c with
      | (.ok token, next) =>
        (.ok (some token), { lexer with cursor := next, emitted := lexer.emitted + 1 })
      | (.error failure, next) => (.error failure, lexer.fail failure next)

variable {kw escaped : Bool} {kind : TokenKind} {quote ch : Char} {start : Nat}
  {characters before word : List Char} {c : Cursor Char} {lexer : Lexer} {source : String}
  {failure : Failure} {next : Cursor Char}

/-- A literal of which some characters are read, by what is left of it up to its closing quote. -/
def finishLiteral (kind : TokenKind) (start : Nat) (characters : List Char) (c : Cursor Char) :
    Option (List Char) → Scan
  | some tail =>
    (.ok ⟨kind, String.ofList (characters ++ tail), start, (c.position + tail.length : Nat)⟩,
      c.skip tail.length)
  | none =>
    (.error (.lexical ⟨.unclosed kind, start, String.ofList c.elements⟩), c.skip c.ahead.length)

theorem finishLiteral_next (h : c.advance? = some (ch, next)) (tail? : Option (List Char)) :
    finishLiteral kind start (characters ++ [ch]) next tail? =
      finishLiteral kind start characters c (tail?.map (ch :: ·)) := by
  cases tail? with
  | none =>
    rw [Option.map_none, finishLiteral, finishLiteral, Cursor.skip_of_advance? h,
      Cursor.elements_of_advance? h, Cursor.ahead_of_advance? h, List.length_cons]
  | some tail =>
    have hp : next.position + tail.length = c.position + (ch :: tail).length := by
      rw [Cursor.position_of_advance? h, List.length_cons]
      omega
    rw [Option.map_some, finishLiteral, finishLiteral, Cursor.skip_of_advance? h, hp,
      List.append_assoc, List.singleton_append, List.length_cons]

/-- Looking at each character of a literal finds the same end as going through the text ahead. -/
theorem checkedLiteralTail_eq :
    checkedLiteralTail kind quote start characters escaped c =
      finishLiteral kind start characters c (literalTail quote escaped c.ahead) := by
  fun_induction checkedLiteralTail kind quote start characters escaped c with
  | case1 characters escaped c h =>
    have ha := Cursor.advance?_eq_none_iff.mp h
    have ht : literalTail quote escaped [] = none := by cases escaped <;> rfl
    simp [ha, ht, finishLiteral]
  | case2 characters escaped c x next h hlt e hcur =>
    rw [Cursor.current_of_advance? h] at hcur
    exact nomatch hcur
  | case3 characters c x next h hlt ch hcur read ih =>
    obtain rfl : x = ch := by simpa [Cursor.current_of_advance? h] using hcur
    rw [ih, finishLiteral_next h, Cursor.ahead_of_advance? h, literalTail]
  | case4 characters escaped c x next h hlt he hcur read ih =>
    obtain rfl : x = '\\' := by simpa [Cursor.current_of_advance? h] using hcur
    have he : escaped = false := by simpa using he
    rw [ih, finishLiteral_next h, Cursor.ahead_of_advance? h, he, literalTail, if_pos rfl]
  | case5 characters escaped c x next h hlt he hcur read hb =>
    obtain rfl : x = quote := by simpa [Cursor.current_of_advance? h] using hcur
    have he : escaped = false := by simpa using he
    rw [Cursor.ahead_of_advance? h, he, literalTail, if_neg hb, if_pos rfl, finishLiteral,
      Cursor.position_of_advance? h, Cursor.eq_skip_of_advance? h]
    rfl
  | case6 characters escaped c x next h hlt ch hcur read he hb hq ih =>
    obtain rfl : x = ch := by simpa [Cursor.current_of_advance? h] using hcur
    have he : escaped = false := by simpa using he
    rw [ih, finishLiteral_next h, Cursor.ahead_of_advance? h, he, literalTail, if_neg hb, if_neg hq]

theorem checkedLiteral_eq (h : c.position = start + 1) :
    checkedLiteral quote start c = scanLiteral quote start c := by
  unfold checkedLiteral scanLiteral
  cases quotes.lookup quote with
  | none => rfl
  | some kind =>
    dsimp only
    rw [checkedLiteralTail_eq]
    cases literalTail quote false c.ahead with
    | none => rfl
    | some tail =>
      have hs : ((c.position + tail.length : Nat) : Int) = start + (quote :: tail).length := by
        rw [List.length_cons]
        omega
      simp only [finishLiteral, token, hs, List.singleton_append]

/-- What is ahead of an operator's first character is what is current after the step. -/
theorem checkedOperator_eq : checkedOperator ch start c = scanOperator ch start c := by
  unfold checkedOperator scanOperator
  cases ha : c.ahead with
  | nil => simp [Cursor.atEnd, ha]
  | cons d rest =>
    have hp : c.peek 1 = .ok d := by simp [Cursor.peek, Cursor.peek?, ha]
    have hc : (c.skip 1).current = .ok d := Cursor.current_of_advance? (Cursor.advance?_of_ahead ha)
    cases ho : operators.lookup ch with
    | none => rfl
    | some seconds =>
      cases hd : seconds.lookup d with
      | none => simp [hp, hd]
      | some kind => simp [hp, hd, hc, token]

theorem checkedScan_eq (h : c.position = start + 1) :
    checkedScan kw ch start c = scan kw ch start c := by
  rw [checkedScan, scan, checkedLiteral_eq h, checkedOperator_eq]

/-- Made one by one, the reads of a lexer are those of its scans, and none of them fails. -/
theorem checkedNextToken_eq (lexer : Lexer) : lexer.checkedNextToken = lexer.nextToken := by
  unfold checkedNextToken nextToken
  cases h : lexer.cursor.advance? with
  | none => rfl
  | some step =>
    obtain ⟨ch, c⟩ := step
    have hp : c.position = c.position - 1 + 1 := by
      rw [Cursor.position_of_advance? h]
      rfl
    have hs : checkedScan lexer.keywordOperators ch (c.position - 1) c = _ := checkedScan_eq hp
    dsimp only
    generalize checkedScan lexer.keywordOperators ch (c.position - 1) c = scanned at hs ⊢
    subst hs
    rfl

/-! ### What may be raised -/

theorem ofSource_of_stream {s : Nat} {tokens : List Token}
    (h : Stream kw source s tokens (some failure)) : failure.OfSource source := by
  obtain ⟨s, c, rest, -, hb, rfl⟩ := stop_of_stream h
  rcases blame_of_barren hb with ⟨hu, -⟩ | ⟨kind, hq, hu, -⟩
  · rw [hu]
    exact .unrecognized c s
  · rw [hu]
    exact .unterminated hq s

theorem kind_not_mem_quoteKinds (h : Lexeme kw kind word) : kind ∉ quoteKinds := by
  cases h with
  | literal hq =>
    have : ∀ entry ∈ quotes, entry.2 ∉ quoteKinds := by decide
    exact this _ hq
  | keyword _ _ _ hk =>
    have : ∀ entry ∈ keywords, entry.2 ∉ quoteKinds := by decide
    exact this _ hk
  | operator ha hb =>
    have : ∀ entry ∈ operators, ∀ second ∈ entry.2, second.2 ∉ quoteKinds := by decide
    exact this _ ha _ hb
  | mark hs =>
    have : ∀ entry ∈ symbols, entry.2 ∉ quoteKinds := by decide
    exact this _ hs
  | _ => decide

theorem eq_next_of_last {call : Call} {tokens : List Token} {failure? : Option Failure}
    (h : call.last tokens failure? = .stop) : call = .next := by
  cases call with
  | next => rfl
  | nextToken | collect | loop => cases failure? <;> exact nomatch h

/-- Only the call that says so stops at the end of the stream. -/
theorem eq_next_of_stop {call : Call} {tokens : List Token} {reply : Reply} {next : Lexer}
    (h : Pull lexer call tokens reply next) (hr : reply = .stop) : call = .next := by
  cases h with
  | one => exact nomatch hr
  | stopped => exact eq_next_of_last hr
  | rest => exact eq_next_of_last hr

/-- After any calls on a lexer the next one raises a fault of the source or nothing. None of its reads
fails, and no token is of the kind of a quote. -/
theorem raises_only_source_faults (source : String) (keywordOperators : Bool)
    (earlier : List Call) (call : Call) :
    let lexer := ((ofSource source keywordOperators).calls earlier).2
    let reply := (lexer.call call).1
    (∀ any : Lexer, any.checkedNextToken = any.nextToken) ∧
    (∀ failure, reply.raised? = some failure → failure.OfSource source) ∧
    (reply = .stop → call = .next) ∧
    (∀ t ∈ lexer.taken call, t.kind ≠ .doubleQuote ∧ t.kind ≠ .singleQuote) ∧
    ∀ failure, tokenize source keywordOperators = .error failure → failure.OfSource source := by
  intro lexer reply
  have hs := stream_drain source keywordOperators
  have hp : Place (ofSource source keywordOperators).drain _ lexer :=
    place_calls (place_ofSource source keywordOperators) earlier
  have hcall : Pull lexer call (lexer.taken call) reply _ := pull_call lexer call
  refine ⟨checkedNextToken_eq, ?_, eq_next_of_stop hcall, ?_, ?_⟩
  · intro failure hf
    rw [raised_pull hp hcall] at hf
    split at hf
    · exact nomatch hf
    · rw [hf] at hs
      exact ofSource_of_stream hs
  · intro t ht
    have hm : t ∈ (ofSource source keywordOperators).drain.tokens :=
      (prefix_of_place (place_pull hp hcall)).subset (List.mem_append_right _ ht)
    simpa [quoteKinds] using kind_not_mem_quoteKinds (lexeme_of_stream hs t hm)
  · intro failure hf
    rw [tokenize_of_stream hs] at hf
    cases he : (ofSource source keywordOperators).drain.failure with
    | none =>
      rw [he] at hf
      exact nomatch hf
    | some failure' =>
      rw [he] at hf hs
      obtain rfl := Except.error.inj hf
      exact ofSource_of_stream hs

end Lexer
end TokenStream
