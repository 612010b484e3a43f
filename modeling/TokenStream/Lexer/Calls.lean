import TokenStream.Lexer

/-! The ways to pull tokens from a lexer, mixed in any order. -/
namespace TokenStream.Lexer

inductive Call where
  /-- One token, with an answer at the end of the stream too. -/
  | nextToken
  /-- One token, stopping at the end of the stream. -/
  | next
  /-- All tokens at once, or none if an error comes. -/
  | collect
  /-- All tokens one by one, up to an error. -/
  | loop

inductive Reply where
  | token (token : Token)
  | noToken
  | stop
  | tokens (tokens : List Token)
  /-- A failure after the given tokens were handed out. -/
  | failed (handedOut : List Token) (failure : Failure)

def call (lexer : Lexer) : Call → Reply × Lexer
  | .nextToken =>
    match lexer.nextToken with
    | (.ok (some token), next) => (.token token, next)
    | (.ok none, next) => (.noToken, next)
    | (.error failure, next) => (.failed [] failure, next)
  | .next =>
    match lexer.nextToken with
    | (.ok (some token), next) => (.token token, next)
    | (.ok none, next) => (.stop, next)
    | (.error failure, next) => (.failed [] failure, next)
  | .collect =>
    match lexer.collect with
    | (.ok tokens, next) => (.tokens tokens, next)
    | (.error failure, next) => (.failed [] failure, next)
  | .loop =>
    let drained := lexer.drain
    match drained.failure with
    | none => (.tokens drained.tokens, drained.lexer)
    | some failure => (.failed drained.tokens failure, drained.lexer)

/-- The replies to a sequence of calls on one lexer, and the lexer after them. -/
def calls (lexer : Lexer) : List Call → List Reply × Lexer
  | [] => ([], lexer)
  | c :: rest =>
    let (reply, next) := lexer.call c
    let (replies, last) := calls next rest
    (reply :: replies, last)

/-- What a lexer reported after `earlier`, which is the same lexer at an earlier time. -/
def logSince (lexer earlier : Lexer) : List LogEntry := lexer.log.drop earlier.log.length

end TokenStream.Lexer
