import TokenStream.Cursor
import TokenStream.LexError
import TokenStream.Token
import TokenStream.Token.Spelling

/-!
The lexer. It pulls one character at a time from a cursor over the source and, where a token has
more than one, keeps driving the cursor until the token is complete. A lexer is used up once: after
the end of its source, or after an error, it delivers nothing more.
-/
namespace TokenStream

/-- What stops a lexer: an error in the source, a read outside the source, or a character that a
table should hold. -/
inductive Failure where
  | lexical (error : LexError)
  | outOfRange (error : OutOfRange)
  | noEntry (c : Char)
deriving DecidableEq, Repr

/-- What a lexer reports once, when its stream ends. -/
inductive LogEntry where
  | exhausted (count : Nat)
  | failed (offset : Int) (message : String)
deriving DecidableEq, Repr

def Failure.message : Failure → String
  | lexical error => error.message
  | outOfRange error => error.message
  | noEntry c => s!"no entry for {quoted (String.singleton c)}"

def LogEntry.render (filename : String) : LogEntry → String
  | exhausted count => s!"{filename}: exhausted after {count} tokens"
  | failed offset message => s!"{filename}: lex error at offset {offset}: {message}"

structure Lexer where
  cursor : Cursor Char
  /-- Whether the words in `keywords` stand for operators. -/
  keywordOperators : Bool
  /-- The number of tokens delivered. -/
  emitted : Nat
  finished : Bool
  /-- What was reported, oldest first. -/
  log : List LogEntry

namespace Lexer

/-- A scanned token, or why there is none, and where the scan leaves the cursor. -/
abbrev Scan := Except Failure Token × Cursor Char

/-- The token of the characters that start at offset `start`. -/
def token (kind : TokenKind) (start : Nat) (characters : List Char) : Token :=
  ⟨kind, String.ofList characters, start, start + characters.length⟩

/-- The current character and the run of characters after it that satisfy `p`. -/
def scanRun (kind : TokenKind) (p : Char → Bool) (start : Nat) (c : Cursor Char) : Scan :=
  match c.advanceWhile p with
  | .error e => (.error (.outOfRange e), c)
  | .ok (run, next) => (.ok (token kind start run), next)

/-- The kind of a word, which is decided once the whole word is known. -/
def wordKind (keywordOperators : Bool) (word : String) : TokenKind :=
  if keywordOperators then (keywords.lookup word).getD .identifier else .identifier

def scanWord (keywordOperators : Bool) (start : Nat) (c : Cursor Char) : Scan :=
  match c.advanceWhile isIdentChar with
  | .error e => (.error (.outOfRange e), c)
  | .ok (run, next) =>
    (.ok (token (wordKind keywordOperators (String.ofList run)) start run), next)

def scanSymbol (ch : Char) (start : Nat) (c : Cursor Char) : Scan :=
  match symbols.lookup ch with
  | none => (.error (.noEntry ch), c)
  | some kind => (.ok (token kind start [ch]), c)

/-- An operator of two characters if the next one completes it, else a mark of one. -/
def scanOperator (ch : Char) (start : Nat) (c : Cursor Char) : Scan :=
  if c.atEnd then scanSymbol ch start c
  else
    match operators.lookup ch, c.peek 1 with
    | none, _ => (.error (.noEntry ch), c)
    | _, .error e => (.error (.outOfRange e), c)
    | some seconds, .ok second =>
      match seconds.lookup second with
      | none => scanSymbol ch start c
      | some kind => (.ok (token kind start [ch, second]), c.skip 1)

/-- What follows an opening quote up to and with the closing one. A backslash escapes the character
after it, which `escaped` says of the next one. -/
def literalTail (quote : Char) : (escaped : Bool) → List Char → Option (List Char)
  | _, [] => none
  | true, ch :: rest => (literalTail quote false rest).map (ch :: ·)
  | false, ch :: rest =>
    if ch = '\\' then (literalTail quote true rest).map (ch :: ·)
    else if ch = quote then some [ch]
    else (literalTail quote false rest).map (ch :: ·)

def scanLiteral (quote : Char) (start : Nat) (c : Cursor Char) : Scan :=
  match quotes.lookup quote with
  | none => (.error (.noEntry quote), c)
  | some kind =>
    match literalTail quote false c.ahead with
    | some tail => (.ok (token kind start (quote :: tail)), c.skip tail.length)
    | none =>
      (.error (.lexical ⟨.unclosed kind, start, String.ofList c.elements⟩), c.skip c.ahead.length)

/-- The token that starts with the current character `ch`, which is at offset `start`. -/
def scan (keywordOperators : Bool) (ch : Char) (start : Nat) (c : Cursor Char) : Scan :=
  if isSpace ch then scanRun .whitespace isSpace start c
  else if ch = '\t' then scanRun .tab (· == '\t') start c
  else if newlines.contains ch then scanRun .newline newlines.contains start c
  else if (quotes.lookup ch).isSome then scanLiteral ch start c
  else if isIdentStart ch then scanWord keywordOperators start c
  else if isDigit ch then scanRun .numericLiteral isDigit start c
  else if (operators.lookup ch).isSome then scanOperator ch start c
  else if (symbols.lookup ch).isSome then scanSymbol ch start c
  else
    (.error (.lexical ⟨.unrecognized (String.ofList [ch]), start, String.ofList c.elements⟩), c)

/-- A lexer at the start of a source. -/
def ofSource (source : String) (keywordOperators : Bool) : Lexer :=
  ⟨.ofList source.toList, keywordOperators, 0, false, []⟩

/-- The lexer after a failure with the cursor left at `c`. An error in the source ends it. -/
def fail (lexer : Lexer) (failure : Failure) (c : Cursor Char) : Lexer :=
  match failure with
  | .lexical e =>
    { lexer with
      cursor := c, finished := true, log := lexer.log ++ [.failed e.offset e.message] }
  | _ => { lexer with cursor := c }

/-- The next token, or none at the end of the source. -/
def nextToken (lexer : Lexer) : Except Failure (Option Token) × Lexer :=
  if lexer.finished then (.ok none, lexer)
  else
    match lexer.cursor.advance? with
    | none =>
      (.ok none,
        { lexer with finished := true, log := lexer.log ++ [.exhausted lexer.emitted] })
    | some (ch, c) =>
      match scan lexer.keywordOperators ch (c.position - 1) c with
      | (.ok token, next) =>
        (.ok (some token), { lexer with cursor := next, emitted := lexer.emitted + 1 })
      | (.error failure, next) => (.error failure, lexer.fail failure next)

section
variable {kind : TokenKind} {p : Char → Bool} {keywordOperators : Bool} {ch : Char} {start : Nat}
  {c : Cursor Char} {lexer next : Lexer} {t : Token}

theorem length_ahead_scanRun : (scanRun kind p start c).2.ahead.length ≤ c.ahead.length := by
  unfold scanRun
  split
  · exact Nat.le_refl _
  · next h => exact Cursor.length_ahead_of_advanceWhile h

theorem length_ahead_scanWord :
    (scanWord keywordOperators start c).2.ahead.length ≤ c.ahead.length := by
  unfold scanWord
  split
  · exact Nat.le_refl _
  · next h => exact Cursor.length_ahead_of_advanceWhile h

theorem length_ahead_scanSymbol : (scanSymbol ch start c).2.ahead.length ≤ c.ahead.length := by
  unfold scanSymbol
  split <;> exact Nat.le_refl _

theorem length_ahead_scanOperator : (scanOperator ch start c).2.ahead.length ≤ c.ahead.length := by
  unfold scanOperator
  split
  · exact length_ahead_scanSymbol
  · split
    · exact Nat.le_refl _
    · exact Nat.le_refl _
    · split
      · exact length_ahead_scanSymbol
      · simp

theorem length_ahead_scanLiteral : (scanLiteral ch start c).2.ahead.length ≤ c.ahead.length := by
  unfold scanLiteral
  split
  · exact Nat.le_refl _
  · split <;> simp

theorem length_ahead_scan :
    (scan keywordOperators ch start c).2.ahead.length ≤ c.ahead.length := by
  unfold scan
  split
  · exact length_ahead_scanRun
  split
  · exact length_ahead_scanRun
  split
  · exact length_ahead_scanRun
  split
  · exact length_ahead_scanLiteral
  split
  · exact length_ahead_scanWord
  split
  · exact length_ahead_scanRun
  split
  · exact length_ahead_scanOperator
  split
  · exact length_ahead_scanSymbol
  · exact Nat.le_refl _

/-- A token takes at least one character. -/
theorem length_ahead_of_nextToken (h : lexer.nextToken = (.ok (some t), next)) :
    next.cursor.ahead.length < lexer.cursor.ahead.length := by
  unfold nextToken at h
  split at h
  · simp at h
  · split at h
    · simp at h
    · next ch c hc =>
      have hs := @length_ahead_scan lexer.keywordOperators ch (c.position - 1) c
      rw [Cursor.ahead_of_advance? hc]
      split at h
      · next token d hd =>
        obtain ⟨-, rfl⟩ := by simpa using h
        rw [hd] at hs
        simp only [List.length_cons]
        exact Nat.lt_succ_of_le hs
      · simp at h

end

/-- The tokens of a stream up to its end, the failure it ends with, if any, and the lexer then. -/
structure Drained where
  tokens : List Token
  failure : Option Failure
  lexer : Lexer

/-- Pulls tokens until there are no more. -/
def drain (lexer : Lexer) : Drained :=
  match h : lexer.nextToken with
  | (.ok none, next) => ⟨[], none, next⟩
  | (.error failure, next) => ⟨[], some failure, next⟩
  | (.ok (some token), next) =>
    have := length_ahead_of_nextToken h
    let rest := drain next
    { rest with tokens := token :: rest.tokens }
termination_by lexer.cursor.ahead.length

/-- All tokens that are left, or the failure that the stream ends with. -/
def collect (lexer : Lexer) : Except Failure (List Token) × Lexer :=
  let drained := lexer.drain
  match drained.failure with
  | none => (.ok drained.tokens, drained.lexer)
  | some failure => (.error failure, drained.lexer)

end Lexer

/-- The tokens of a source. -/
def tokenize (source : String) (keywordOperators : Bool) : Except Failure (List Token) :=
  ((Lexer.ofSource source keywordOperators).collect).1

end TokenStream
