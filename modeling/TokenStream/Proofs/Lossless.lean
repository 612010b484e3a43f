import TokenStream.Proofs.Stream
import TokenStream.Proofs.Tiling

/-!
Tokens stand in the source one after the other, without a gap, up to the end of the source or up to
the error.
-/
namespace TokenStream

/-- The part of a text between two offsets. -/
def slice (text : String) (start stop : Int) : String :=
  String.ofList ((text.toList.drop start.toNat).take (stop - start).toNat)

def Token.interval (t : Token) : Int × Int := (t.start, t.stop)

/-- The token has a text, and stands in the source where it says. -/
structure Token.StandsIn (source : String) (t : Token) : Prop where
  ne_empty : t.text ≠ ""
  slice_eq : slice source t.start t.stop = t.text
  stop_eq : t.stop = t.start + t.text.length

variable {text : String} {a b c : Int} {s : Nat} {word : List Char}
  {tokens : List Token}

theorem of_drop_eq_cons {text rest : List Char} {c : Char} (h : text.drop s = c :: rest) :
    text[s]? = some c ∧ text.drop (s + 1) = rest := by
  constructor
  · rw [← List.head?_drop, h]
    rfl
  · rw [← List.drop_drop, h]
    rfl

theorem slice_of_starts (h : word <+: text.toList.drop s) :
    slice text s (s + word.length) = String.ofList word := by
  have hl : ((s : Int) + word.length - s).toNat = word.length := by omega
  rw [slice, hl, Int.toNat_natCast, ← List.prefix_iff_eq_take.mp h]

theorem slice_append (ha : 0 ≤ a) (hab : a ≤ b) (hbc : b ≤ c) :
    slice text a b ++ slice text b c = slice text a c := by
  have hac : (c - a).toNat = (b - a).toNat + (c - b).toNat := by omega
  have hb : b.toNat = a.toNat + (b - a).toNat := by omega
  rw [slice, slice, slice, ← String.ofList_append, hac, List.take_add, hb, List.drop_drop]

theorem slice_self : slice text a a = "" := by
  simp [slice]

theorem slice_zero_length : slice text 0 text.length = text := by
  have hl : ((text.length : Int) - 0).toNat = text.toList.length := by
    rw [String.length_toList]
    omega
  rw [slice, hl]
  simp

/-- The texts of tokens that tile a part of the source are that part together. -/
theorem join_of_tiles (ha : 0 ≤ a) (h : Tiles a (tokens.map Token.interval) b)
    (ht : ∀ t ∈ tokens, t.StandsIn text) :
    String.join (tokens.map Token.text) = slice text a b := by
  induction tokens generalizing a with
  | nil =>
    obtain rfl : a = b := h
    simp [slice_self]
  | cons t tokens ih =>
    obtain ⟨rfl, hlt, h⟩ := h
    obtain ⟨ht, hr⟩ := List.forall_mem_cons.mp ht
    rw [List.map_cons, String.join_cons, ← ht.slice_eq, ih (by omega) h hr]
    exact slice_append ha (by omega) (le_of_tiles h)

namespace Lexer

variable {kw : Bool} {source : String} {ending : Option Failure}

theorem standsIn_of_stream (h : Stream kw source s tokens ending) :
    ∀ t ∈ tokens, t.StandsIn source := by
  induction h with
  | finished => simp
  | failed => simp
  | @token s kind word tokens ending h _ ih =>
    refine List.forall_mem_cons.mpr ⟨⟨?_, slice_of_starts h.starts, by simp⟩, ih⟩
    simpa using lexeme_ne_nil h.lexeme

theorem tiles_of_stream (h : Stream kw source s tokens ending) :
    ∃ last : Nat, Tiles s (tokens.map Token.interval) last ∧
      ((ending = none ∧ last = source.length) ∨
        (∃ c, ending = some (.lexical ⟨blame c, last, source⟩)) ∧ last < source.length) := by
  induction h with
  | finished => exact ⟨_, rfl, Or.inl ⟨rfl, rfl⟩⟩
  | @failed s c rest hd hb =>
    exact ⟨s, rfl, Or.inr ⟨⟨c, rfl⟩, lt_length_of_drop hd⟩⟩
  | @token s kind word tokens ending h _ ih =>
    obtain ⟨last, ht, he⟩ := ih
    have hp : 0 < word.length := List.length_pos_iff.mpr (lexeme_ne_nil h.lexeme)
    refine ⟨last, ⟨rfl, ?_, by simpa [Token.interval] using ht⟩, he⟩
    dsimp only
    omega

/-- Nothing of the source is lost, up to its end or up to the error. -/
theorem drain_lossless (source : String) (keywordOperators : Bool) :
    let drained := (ofSource source keywordOperators).drain
    (∀ t ∈ drained.tokens, t.StandsIn source) ∧
    match drained.failure with
    | none =>
      Tiles 0 (drained.tokens.map Token.interval) source.length ∧
        String.join (drained.tokens.map Token.text) = source
    | some (.lexical e) =>
      0 ≤ e.offset ∧ e.offset < source.length ∧
        Tiles 0 (drained.tokens.map Token.interval) e.offset ∧
        String.join (drained.tokens.map Token.text) = slice source 0 e.offset
    | some _ => False := by
  intro drained
  have hs := stream_drain source keywordOperators
  have ht := standsIn_of_stream hs
  refine ⟨ht, ?_⟩
  obtain ⟨last, htile, ⟨he, hl⟩ | ⟨⟨c, he⟩, hl⟩⟩ := tiles_of_stream hs
  · subst hl
    have hj := join_of_tiles (Int.le_refl 0) htile ht
    simp only [drained, he]
    exact ⟨htile, hj.trans slice_zero_length⟩
  · have hj := join_of_tiles (Int.le_refl 0) htile ht
    simp only [drained, he]
    exact ⟨by omega, by omega, htile, hj⟩

end Lexer

end TokenStream
