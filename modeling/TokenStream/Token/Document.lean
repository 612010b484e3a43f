import TokenStream.Json
import TokenStream.Token

/-! Tokens as a JSON document: an array with an object for each token. -/
namespace TokenStream

def Token.toJson (token : Token) : Json :=
  .object
    [("kind", .string token.kind.name), ("text", .string token.text),
      ("start", .number token.start), ("end", .number token.stop)]

/-- The document of the tokens, ended by a line feed. -/
def document (tokens : List Token) : String := (Json.array (tokens.map Token.toJson)).render ++ "\n"

end TokenStream
