import TokenStream.Text.Lines
import TokenStream.Text.Quoted
import TokenStream.Token.Kind

/-!
Lexical errors: what is wrong, where, and in which source. An error is shown as a snippet of five
lines that repeats the source line and underlines the place.
-/
namespace TokenStream

/-- What is wrong at a place of a source. -/
inductive Fault where
  /-- A literal that reaches the end of the source before its closing quote. -/
  | unterminated (message : String) (kind : Option TokenKind)
  /-- Characters that start no token. -/
  | unrecognized (characters : String)
  /-- Any other fault. -/
  | other (message : String) (kind : Option TokenKind)
deriving DecidableEq, Repr

namespace Fault

def message : Fault → String
  | unterminated message _ => message
  | unrecognized characters => s!"unrecognized character {quoted characters}"
  | other message _ => message

/-- The kind of the token that could not be completed, if one was begun. -/
def kind : Fault → Option TokenKind
  | unterminated _ kind => kind
  | unrecognized _ => none
  | other _ kind => kind

/-- Whether all the rest of the source line is at fault. -/
def reachesLineEnd : Fault → Bool
  | unterminated .. => true
  | _ => false

/-- The fault of a literal that is never closed. -/
def unclosed (kind : TokenKind) : Fault :=
  let label := if kind = .stringLiteral then "string" else "char"
  .unterminated s!"unterminated {label} literal" (some kind)

end Fault

structure LexError where
  fault : Fault
  offset : Int
  source : String
deriving DecidableEq, Repr

namespace LexError

/-- The error at a number that is in the range of offsets. -/
def ofFault? (fault : Fault) (offset : Int) (source : String) : Option LexError :=
  if isOffset offset then some ⟨fault, offset, source⟩ else none

def message (e : LexError) : String := e.fault.message

def kind (e : LexError) : Option TokenKind := e.fault.kind

def position (e : LexError) : Position := positionAt e.source e.offset

/-- The line of the source that the error is on. -/
def sourceLine (e : LexError) : String :=
  ((splitLines e.source)[e.position.line - 1]?).getD ""

/-- The number of carets under the source line. -/
def underline (e : LexError) : Nat :=
  if e.fault.reachesLineEnd then (max 1 (e.sourceLine.length - e.position.column + 1)).toNat else 1

def spaces (n : Nat) : String := String.ofList (List.replicate n ' ')

def carets (n : Nat) : String := String.ofList (List.replicate n '^')

/-- The message, the place in the named file, and the source line underlined. -/
def snippet (e : LexError) (filename : String) : String :=
  let column := e.position.column
  let number := toString e.position.line
  let gutter := spaces (number.length + 1)
  s!"error: {e.message}\n" ++
  s!"{gutter}--> {filename}:{number}:{column}\n" ++
  s!"{gutter}|\n" ++
  s!"{number} | {e.sourceLine}\n" ++
  s!"{gutter}| {spaces (column - 1).toNat}{carets e.underline}"

end LexError

/-- The name that stands for a source that is not a file. -/
def unnamedSource : String := "<input>"

end TokenStream
