import TokenStream.Token.Kind
import TokenStream.Text.Quoted

/-! Tokens: a kind, a text, and the offsets between which the text stands in its source. -/
namespace TokenStream

structure Token where
  kind : TokenKind
  text : String
  start : Int
  stop : Int
deriving DecidableEq, Repr

namespace Token

/-- The token on one line, for a reader. -/
def describe (token : Token) : String :=
  s!"Token({token.kind.name}, {quoted token.text}, {token.start}:{token.stop})"

/-- The token moved `distance` characters to the right. -/
def shift (distance : Int) (token : Token) : Token :=
  { token with start := token.start + distance, stop := token.stop + distance }

end Token
end TokenStream
