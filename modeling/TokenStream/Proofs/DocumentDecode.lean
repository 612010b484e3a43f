import TokenStream.Proofs.Invocation
import TokenStream.Proofs.JsonDecode
import TokenStream.Proofs.Lossless

/-!
The JSON output read back. Any decoder of JSON finds the tokens in it, and in their texts all of the
input.
-/
namespace TokenStream

/-- What a document says of a token. -/
def Token.datum (t : Token) : Json.Datum :=
  .object
    [("kind", .string t.kind.name), ("text", .string t.text), ("start", .number t.start 0),
      ("end", .number t.stop 0)]

variable {text source : String} {tokens : List Token} {kw : Bool} {w : World} {o : Options}

theorem data_map_toJson (tokens : List Token) :
    Json.data (tokens.map Token.toJson) = tokens.map Token.datum := by
  induction tokens with
  | nil => rfl
  | cons t tokens ih =>
    rw [List.map_cons, List.map_cons, Json.data, ih]
    rfl

theorem decode_tokens (tokens : List Token) :
    Json.decode (Json.array (tokens.map Token.toJson)).render =
      some (.array (tokens.map Token.datum)) := by
  rw [Json.decode_render, Json.datum, data_map_toJson]

/-- The tokens of a source that lexes have its whole text between them. -/
theorem join_of_tokenize (h : tokenize source kw = .ok tokens) :
    (∀ t ∈ tokens, t.StandsIn source) ∧ String.join (tokens.map Token.text) = source := by
  cases lexed_of_tokenize h with
  | whole hs =>
    have ht := Lexer.standsIn_of_stream hs
    obtain ⟨last, htile, ⟨-, rfl⟩ | ⟨⟨c, he⟩, -⟩⟩ := Lexer.tiles_of_stream hs
    · exact ⟨ht, (join_of_tiles (Int.le_refl 0) htile ht).trans slice_zero_length⟩
    · exact nomatch he

theorem eq_nil_of_tokenize_empty (h : tokenize "" kw = .ok tokens) : tokens = [] := by
  have hs : Lexer.Stream kw "" 0 [] none := .finished
  have ht := tokenize_of_stream hs
  rw [h] at ht
  exact Except.ok.inj ht

/-- The document is one of JSON and tells all tokens, and their texts are the input. -/
theorem json_output_lossless (w : World) (o : Options) (text : String) (tokens : List Token)
    (hf : o.format = .json) (hb : Program.inputBytes w o = .ok text.toUTF8)
    (ht : tokenize (normalizeBreaks text) o.keywordOperators = .ok tokens) :
    ∃ body,
      (Program.tokenizeInput w o).output = .ok (body ++ "\n") ∧
      Json.decode body = some (.array (tokens.map Token.datum)) ∧
      String.join (tokens.map Token.text) = normalizeBreaks text ∧
      (∀ t ∈ tokens, slice (normalizeBreaks text) t.start t.stop = t.text) ∧
      (text = "" → tokens = [] ∧ body = "[]") := by
  have hi := Program.inputText_of_inputBytes hb
  have ho := Program.output_tokenizeInput hi
  rw [ht, hf] at ho
  obtain ⟨hs, hj⟩ := join_of_tokenize ht
  refine ⟨_, ho, decode_tokens tokens, hj, fun t hm => (hs t hm).slice_eq, ?_⟩
  rintro rfl
  obtain rfl := eq_nil_of_tokenize_empty ht
  exact ⟨rfl, rfl⟩

/-- A literal with a control character and a break of two characters in it. -/
theorem json_output_lossless_of_literal :
    let text := "\"\r\n\u0001\""
    let tokens : List Token := [⟨.stringLiteral, "\"\n\u0001\"", 0, 4⟩]
    let w : World := ⟨⟨[], []⟩, text.toUTF8⟩
    let o : Options := ⟨none, none, .json, true, false⟩
    o.format = .json ∧ Program.inputBytes w o = .ok text.toUTF8 ∧
      tokenize (normalizeBreaks text) o.keywordOperators = .ok tokens ∧
      ∃ body,
        (Program.tokenizeInput w o).output = .ok (body ++ "\n") ∧
        Json.decode body = some (.array (tokens.map Token.datum)) ∧
        String.join (tokens.map Token.text) = normalizeBreaks text ∧
        (∀ t ∈ tokens, slice (normalizeBreaks text) t.start t.stop = t.text) ∧
        (text = "" → tokens = [] ∧ body = "[]") := by
  intro text tokens w o
  have hn : normalizeBreaks text = "\"\n\u0001\"" := by
    have h : text.toList = ['"', '\r', '\n', '\u0001', '"'] := String.toList_ofList
    rw [normalizeBreaks, h]
    rfl
  have ht : tokenize (normalizeBreaks text) o.keywordOperators = .ok tokens := by
    have hq : ('"', TokenKind.stringLiteral) ∈ quotes := by decide
    have hl : Lexer.literalTail '"' false ['\n', '\u0001', '"'] = some ['\n', '\u0001', '"'] := rfl
    rw [hn]
    refine tokenize_of_longest ?_
    exact longest_of_literal hq hl
  exact ⟨rfl, rfl, ht, json_output_lossless w o text tokens rfl rfl ht⟩

end TokenStream
