import TokenStream.Lexer

/-!
Reading on after errors. An error costs the one character that it is at; a fresh lexer goes on with
what follows.
-/
namespace TokenStream

/-- A piece of a source: a token, or an error at an offset. -/
inductive Item where
  | token (token : Token)
  | fault (fault : Fault) (offset : Nat)
deriving DecidableEq, Repr

/-- The items of a text that starts at offset `base` of its source. -/
def itemsFrom (base : Nat) : List Char → List Item
  | [] => []
  | c :: rest =>
    let drained := (Lexer.ofSource (String.ofList (c :: rest)) true).drain
    let tokens := drained.tokens.map fun token => .token (token.shift base)
    match drained.failure with
    | some (.lexical e) =>
      let skipped := e.offset.toNat
      let offset := base + skipped
      tokens ++ .fault e.fault offset :: itemsFrom (offset + 1) (rest.drop skipped)
    | _ => tokens
termination_by text => text.length

/-- The tokens and the errors of a source, in order. -/
def resume (source : String) : List Item := itemsFrom 0 source.toList

end TokenStream
