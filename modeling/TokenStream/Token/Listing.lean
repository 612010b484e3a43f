import TokenStream.Token

/-!
The listing of tokens: a line for each, with its offsets, the name of its kind, and its text between
quotation marks.
-/
namespace TokenStream

namespace Listing

/-- The text moved to the right end of a column. -/
def alignRight (width : Nat) (text : String) : String :=
  String.ofList (List.replicate (width - text.length) ' ') ++ text

/-- The text at the left end of a column. -/
def alignLeft (width : Nat) (text : String) : String :=
  text ++ String.ofList (List.replicate (width - text.length) ' ')

def line (token : Token) : String :=
  alignRight 5 (toString token.start) ++ ":" ++ alignLeft 5 (toString token.stop) ++ " " ++
    alignLeft 26 token.kind.name ++ " " ++ quoted token.text ++ "\n"

end Listing

def listing (tokens : List Token) : String := String.join (tokens.map Listing.line)

end TokenStream
