import TokenStream.Proofs.Junction
import TokenStream.Proofs.KeywordSwitch
import TokenStream.Proofs.Lossless
import TokenStream.Proofs.Pieces

/-!
Sources put together and taken apart. Whatever follows a source changes at most its last token. Two
sources make the tokens of both unless the last token of the one joins the first character of the
other, and a part between the ends of tokens makes the tokens in it.
-/
namespace TokenStream

open Lexer (ofSource)

variable {kw : Bool} {pieces before middle after : List Piece} {p : Piece} {kind : TokenKind}
  {text word rest more : List Char} {fault : Option Fault} {c : Char} {a b source : String}
  {start : Int} {stream : Lexer.Drained}

/-! ### Text behind a source -/

theorem cutBefore_append_rest (h : CutBefore kw rest pieces) (hn : rest ≠ [])
    (more : List Char) : CutBefore kw (rest ++ more) pieces := by
  refine cutBefore_of_head h ?_
  intro c hc
  obtain ⟨d, rest, rfl⟩ := List.exists_cons_of_ne_nil hn
  simpa using hc

/-- A text that starts with a token is not left uncut. -/
theorem exists_cons_of_cut (h : Cut kw text pieces rest fault) (hl : Lexeme kw kind word)
    (hp : word <+: text) : ∃ p more, pieces = p :: more := by
  cases pieces with
  | cons p more => exact ⟨p, more, rfl⟩
  | nil =>
    obtain ⟨rfl, -, hs⟩ := h
    cases hs with
    | finished => exact absurd (List.prefix_nil.mp hp) (lexeme_ne_nil hl)
    | failed hb => exact absurd hp (hb _ _ hl)

/-- The last token of a source may become another one, which starts at the same place. -/
theorem cut_behind_token (h : CutBefore kw [] (before ++ [p])) (more : List Char) :
    ∃ p' pieces rest fault,
      Cut kw (spell (before ++ [p]) ++ more) (before ++ p' :: pieces) rest fault := by
  obtain ⟨hb, hp, -⟩ := cutBefore_append.mp h
  obtain ⟨pieces, rest, fault, hc⟩ := exists_cut kw (String.ofList (p.word ++ more))
  rw [String.toList_ofList] at hc
  obtain ⟨p', pieces, rfl⟩ := exists_cons_of_cut hc hp.lexeme (List.prefix_append _ _)
  have hb : CutBefore kw p.word before := by simpa using hb
  have hc := cut_append (cutBefore_append_rest hb (lexeme_ne_nil hp.lexeme) more) hc
  exact ⟨p', pieces, rest, fault, by simpa using hc⟩

/-- A source that breaks off at an unknown character breaks off there whatever follows. -/
theorem cut_behind_unknown (h : CutBefore kw (c :: rest) pieces) (hu : charClass c = .unknown)
    (more : List Char) :
    Cut kw (spell pieces ++ (c :: rest) ++ more) pieces (c :: rest ++ more) (some (blame c)) where
  text_eq := List.append_assoc _ _ _
  before := cutBefore_append_rest h (by simp) more
  stops := .failed (barren_cons_iff.mpr (.inl hu))

theorem length_lt_of_closed {quote : Char} {tail : List Char} (hq : quote ≠ '\\')
    (h : Lexer.literalTail quote false rest = none)
    (h' : Lexer.literalTail quote false (rest ++ more) = some tail) :
    rest.length < tail.length := by
  by_contra hl
  obtain ⟨body, hb, ht, hp⟩ := (literalTail_eq_some_iff hq).mp h'
  have hp : tail <+: rest :=
    List.prefix_of_prefix_length_le hp (List.prefix_append _ _) (Nat.le_of_not_lt hl)
  rw [(literalTail_eq_some_iff hq).mpr ⟨body, hb, ht, hp⟩] at h
  exact nomatch h

/-- An open literal is closed by what follows, or stays open. -/
theorem cut_behind_quote (h : CutBefore kw (c :: rest) pieces) (hq : (c, kind) ∈ quotes)
    (ht : Lexer.literalTail c false rest = none) (more : List Char) :
    (∃ tail pieces' rest' fault, rest.length < tail.length ∧
      Cut kw (spell pieces ++ (c :: rest) ++ more) (pieces ++ ⟨kind, c :: tail⟩ :: pieces') rest'
        fault) ∨
    Cut kw (spell pieces ++ (c :: rest) ++ more) pieces (c :: rest ++ more) (some (blame c)) := by
  have hb := cutBefore_append_rest h (by simp) more
  rw [List.append_assoc]
  cases ht' : Lexer.literalTail c false (rest ++ more) with
  | none => exact .inr ⟨rfl, hb, .failed (barren_cons_iff.mpr (.inr ⟨kind, hq, ht'⟩))⟩
  | some tail =>
    have hl : Longest kw kind (c :: tail) (c :: rest ++ more) := longest_of_literal hq ht'
    obtain ⟨pieces', rest', fault, hc⟩ := exists_cut_of_longest hl
    have hlt := length_lt_of_closed (quote_ne_backslash hq) ht ht'
    exact .inl ⟨tail, pieces', rest', fault, hlt, cut_append hb hc⟩

theorem positionAt_append {s : Nat} (hs : s ≤ a.length) (b : String) :
    positionAt (a ++ b) s = positionAt a s := by
  have hl : s ≤ a.toList.length := by rwa [String.length_toList]
  simp [positionAt, List.take_append_of_le_length hl]

/-- What the stream of a longer source keeps of that of `a`, which has the given result: all tokens
but the last, whose place is kept, an unknown character, and the place of an open literal, which may
be closed behind `a`. -/
def Kept (a : String) (stream longer : Lexer.Drained) : Except Failure (List Token) → Prop
  | .ok tokens =>
    ∀ before t, tokens = before ++ [t] →
      ∃ u more, longer.tokens = before ++ u :: more ∧ u.start = t.start
  | .error (.lexical e) =>
    match e.fault with
    | .unrecognized _ =>
      longer.tokens = stream.tokens ∧
        ∃ e', longer.failure = some (.lexical e') ∧ e'.fault = e.fault ∧ e'.offset = e.offset ∧
          e'.position = e.position
    | .unterminated _ (some kind) =>
      (∃ u more, longer.tokens = stream.tokens ++ u :: more ∧ u.kind = kind ∧
        u.start = e.offset ∧ (a.length : Int) < u.stop) ∨
      (longer.tokens = stream.tokens ∧
        ∃ e', longer.failure = some (.lexical e') ∧ e'.fault = e.fault ∧ e'.offset = e.offset)
    | _ => False
  | .error _ => False

theorem kept_of_tokens (hs : a.toList = spell pieces) (hb : CutBefore kw [] pieces) (b : String) :
    Kept a stream (ofSource (a ++ b) kw).drain (.ok (lay 0 pieces)) := by
  rintro before t hl
  obtain ⟨pieces, last, rfl, rfl, hlast⟩ := lay_eq_append_iff.mp hl
  obtain ⟨p, rfl, rfl⟩ := lay_eq_singleton hlast
  obtain ⟨p', pieces', rest, fault, hc⟩ := cut_behind_token hb b.toList
  rw [← hs, ← String.toList_append] at hc
  obtain ⟨ht, -⟩ := drain_of_cut hc
  rw [lay_append] at ht
  exact ⟨_, _, ht, rfl⟩

theorem kept_of_unknown (ht : stream.tokens = lay 0 pieces)
    (hs : a.toList = spell pieces ++ c :: rest) (hb : CutBefore kw (c :: rest) pieces)
    (hu : charClass c = .unknown) (b : String) :
    Kept a stream (ofSource (a ++ b) kw).drain
      (.error (.lexical ⟨blame c, (spell pieces).length, a⟩)) := by
  have hl : (spell pieces).length ≤ a.length := by
    rw [← String.length_toList, hs, List.length_append]
    exact Nat.le_add_right _ _
  have hc := cut_behind_unknown hb hu b.toList
  rw [← hs, ← String.toList_append] at hc
  obtain ⟨ht', he⟩ := drain_of_cut hc
  rw [← ht] at ht'
  rw [blame_of_unknown hu] at he ⊢
  exact ⟨ht', _, he, rfl, rfl, positionAt_append hl b⟩

theorem kept_of_quote (ht : stream.tokens = lay 0 pieces)
    (hs : a.toList = spell pieces ++ c :: rest) (hb : CutBefore kw (c :: rest) pieces)
    (hq : (c, kind) ∈ quotes) (htail : Lexer.literalTail c false rest = none) (b : String) :
    Kept a stream (ofSource (a ++ b) kw).drain
      (.error (.lexical ⟨blame c, (spell pieces).length, a⟩)) := by
  have hl : a.length = (spell pieces).length + (rest.length + 1) := by
    rw [← String.length_toList, hs, List.length_append, List.length_cons]
  rw [blame_of_mem_quotes hq]
  have hbehind := cut_behind_quote hb hq htail b.toList
  rw [← hs, ← String.toList_append] at hbehind
  rcases hbehind with ⟨tail, pieces', rest', fault, hlt, hc⟩ | hc
  · obtain ⟨ht', -⟩ := drain_of_cut hc
    rw [lay_append, ← ht] at ht'
    refine .inl ⟨_, _, ht', rfl, by simp, ?_⟩
    simp only [List.length_cons]
    omega
  · obtain ⟨ht', he⟩ := drain_of_cut hc
    rw [← ht] at ht'
    rw [blame_of_mem_quotes hq] at he
    exact .inr ⟨ht', _, he, rfl, rfl⟩

/-- What follows a source changes at most its last token, or the literal that it leaves open. -/
theorem drain_append_stable (a b : String) (keywordOperators : Bool) :
    Kept a (ofSource a keywordOperators).drain (ofSource (a ++ b) keywordOperators).drain
      (tokenize a keywordOperators) := by
  obtain ⟨pieces, rest, fault, hc⟩ := exists_cut keywordOperators a
  obtain ⟨ht, -⟩ := drain_of_cut hc
  rw [tokenize_of_cut hc]
  obtain ⟨hs, hb, he⟩ := hc
  cases he with
  | finished => exact kept_of_tokens (hs.trans (List.append_nil _)) hb b
  | failed hbarren =>
    rcases barren_cons_iff.mp hbarren with hu | ⟨kind, hq, htail⟩
    · exact kept_of_unknown ht hs hb hu b
    · exact kept_of_quote ht hs hb hq htail b

/-! ### Two sources -/

theorem longest_of_lexeme (h : Lexeme kw kind word) : Longest kw kind word word := by
  have hl : Longest kw kind word (word ++ []) := longest_append_iff.mpr ⟨h, nofun⟩
  rwa [List.append_nil] at hl

/-- Pieces in a row are cut as they are apart if the lexer cuts between them. -/
theorem cutBefore_join_iff (ha : CutBefore kw [] (before ++ [p])) (hb : CutBefore kw [] after)
    (hc : spell after = c :: rest) :
    CutBefore kw [] (before ++ [p] ++ after) ↔ ¬ Extends kw p.word c := by
  obtain ⟨hbefore, hp, -⟩ := cutBefore_append.mp ha
  have hbefore : CutBefore kw (p.word ++ spell after) before := by
    have hb : CutBefore kw p.word before := by simpa using hbefore
    exact cutBefore_append_rest hb (lexeme_ne_nil hp.lexeme) _
  have hl : Longest kw p.kind p.word (p.word ++ spell after) ↔ ¬ Extends kw p.word c := by
    simp [longest_append_iff, hc, hp.lexeme]
  rw [← hl, List.append_assoc, cutBefore_append, cutBefore_append]
  simp [CutBefore, hb, hbefore]

/-- Two sources make the tokens of both, unless the last of the one joins what the other starts
with. -/
theorem tokenize_append_iff (a b : String) (keywordOperators : Bool) (ts us : List Token)
    (ha : a ≠ "") (hb : b ≠ "") (hts : tokenize a keywordOperators = .ok ts)
    (hus : tokenize b keywordOperators = .ok us) :
    ∃ t c, ts.getLast? = some t ∧ b.toList.head? = some c ∧
      (tokenize (a ++ b) keywordOperators = .ok (ts ++ us.map (Token.shift a.length)) ↔
        ¬ Joins t c) := by
  obtain ⟨before, hsa, hca, rfl⟩ := tokenize_eq_ok_iff.mp hts
  obtain ⟨after, hsb, hcb, rfl⟩ := tokenize_eq_ok_iff.mp hus
  obtain ⟨c, rest, hc⟩ : ∃ c rest, b.toList = c :: rest := by
    refine List.exists_cons_of_ne_nil ?_
    simpa using hb
  rcases List.eq_nil_or_concat before with rfl | ⟨before, p, hl⟩
  · exact absurd (String.toList_eq_nil_iff.mp hsa) ha
  rw [List.concat_eq_append] at hl
  subst hl
  obtain ⟨-, hp, -⟩ := cutBefore_append.mp hca
  obtain ⟨start, stop, hlast⟩ : ∃ start stop,
      (lay 0 (before ++ [p])).getLast? = some ⟨p.kind, String.ofList p.word, start, stop⟩ := by
    rw [lay_append]
    exact ⟨_, _, List.getLast?_concat⟩
  refine ⟨_, c, hlast, by rw [hc, List.head?_cons], ?_⟩
  have hl : lay 0 (before ++ [p]) ++ (lay 0 after).map (Token.shift a.length) =
      lay 0 (before ++ [p] ++ after) := by
    rw [lay_shift, ← String.length_toList, hsa, ← lay_append]
  have hs : (a ++ b).toList = spell (before ++ [p] ++ after) := by
    rw [String.toList_append, hsa, hsb, ← spell_append]
  rw [hl, tokenize_lay_iff hs, joins_iff_extends hp.lexeme]
  exact cutBefore_join_iff hca hcb (hsb ▸ hc)

/-- A keyword in front of a digit, which the mark of the same kind would not join. -/
theorem tokenize_append_iff_of_keyword :
    let ts : List Token := [⟨.ampersand, "AND", 0, 3⟩]
    let us : List Token := [⟨.numericLiteral, "1", 0, 1⟩]
    "AND" ≠ "" ∧ "1" ≠ "" ∧ tokenize "AND" true = .ok ts ∧ tokenize "1" true = .ok us ∧
      ∃ t c, ts.getLast? = some t ∧ "1".toList.head? = some c ∧
        (tokenize ("AND" ++ "1") true = .ok (ts ++ us.map (Token.shift "AND".length)) ↔
          ¬ Joins t c) := by
  intro ts us
  have hdigits : ['1'].all isDigit = true := by decide
  obtain ⟨ha, -⟩ := @lexemes_of_keyword .ampersand ['A', 'N', 'D'] (by decide)
  have hb : Lexeme true .numericLiteral ['1'] :=
    .digits (List.cons_ne_nil _ _) (List.all_eq_true.mp hdigits)
  have hts : tokenize "AND" true = .ok ts := tokenize_of_longest (longest_of_lexeme ha)
  have hus : tokenize "1" true = .ok us := tokenize_of_longest (longest_of_lexeme hb)
  have hna : "AND" ≠ "" := by decide
  have hnb : "1" ≠ "" := by decide
  exact ⟨hna, hnb, hts, hus, tokenize_append_iff "AND" "1" true ts us hna hnb hts hus⟩

/-! ### Parts of a source -/

/-- Nothing before or behind some pieces matters to them. -/
theorem tokenize_spell_middle (h : CutBefore kw rest (before ++ (middle ++ after))) :
    tokenize (String.ofList (spell middle)) kw = .ok (lay 0 middle) := by
  obtain ⟨-, h⟩ := cutBefore_append.mp h
  rw [tokenize_lay_iff String.toList_ofList]
  exact cutBefore_of_head (cutBefore_append.mp h).1 nofun

theorem slice_spell (hs : source.toList = spell (before ++ (middle ++ after))) :
    slice source (spell before).length ((spell before).length + (spell middle).length) =
      String.ofList (spell middle) := by
  refine slice_of_starts ?_
  rw [hs, spell_append, List.drop_left, spell_append]
  exact List.prefix_append _ _

theorem lay_shift_back : (lay start pieces).map (Token.shift (-start)) = lay 0 pieces := by
  rw [lay_shift, Int.add_right_neg]

/-- The pieces of the tokens from the index `i` to the index `j`. -/
theorem exists_middle {i j : Nat} {first last : Token} (hij : i ≤ j)
    (hi : (lay 0 pieces)[i]? = some first) (hj : (lay 0 pieces)[j]? = some last) :
    ∃ before middle after, pieces = before ++ (middle ++ after) ∧
      (lay 0 pieces).extract i (j + 1) = lay (spell before).length middle ∧
      first.start = (spell before).length ∧
      last.stop = (spell before).length + (spell middle).length := by
  obtain ⟨before, rest, rfl, -, hrest⟩ :=
    lay_eq_append_iff.mp (List.take_append_drop i (lay 0 pieces)).symm
  obtain ⟨middle, after, rfl, hmiddle, -⟩ :=
    lay_eq_append_iff.mp (hrest.trans (List.take_append_drop (j + 1 - i) _).symm)
  rw [Int.zero_add] at hmiddle
  have hfirst : (lay (spell before).length middle).head? = some first := by
    rw [hmiddle, List.head?_take, if_neg (by omega), List.head?_drop, hi]
  have hlast : (lay (spell before).length middle).getLast? = some last := by
    have hn : i + (j + 1 - i - 1) = j := by omega
    rw [hmiddle, List.getLast?_take, if_neg (by omega), List.getElem?_drop, hn, hj, Option.some_or]
  exact ⟨before, middle, after, rfl, by rw [List.extract_eq_take_drop, hmiddle],
    start_of_lay hfirst, stop_of_lay hlast⟩

/-- What is left of a source behind some pieces is cut as it is in the source. -/
theorem cut_slice (h : Cut kw source.toList (before ++ after) rest fault) :
    Cut kw (slice source (spell before).length source.length).toList after rest fault where
  text_eq := by
    have hl : (source.length : Int) =
        (spell before).length + ((spell after ++ rest).length : Int) := by
      rw [← String.length_toList, h.text_eq, spell_append, List.append_assoc, List.length_append]
      exact Int.natCast_add _ _
    have hd : source.toList.drop (spell before).length = spell after ++ rest := by
      rw [h.text_eq, spell_append, List.append_assoc, List.drop_left]
    rw [hl, slice_of_starts (hd ▸ List.prefix_refl _), String.toList_ofList]
  before := (cutBefore_append.mp h.before).2
  stops := h.stops

theorem tokenize_text_of_mem {t : Token} (h : CutBefore kw rest pieces)
    (hm : t ∈ lay start pieces) : tokenize t.text kw = .ok [t.shift (-t.start)] := by
  obtain ⟨xs, ys, he⟩ := List.append_of_mem hm
  obtain ⟨before, tail, rfl, -, htail⟩ := lay_eq_append_iff.mp he
  rw [← List.singleton_append] at htail
  obtain ⟨middle, after, rfl, hmiddle, -⟩ := lay_eq_append_iff.mp htail
  obtain ⟨p, rfl, rfl⟩ := lay_eq_singleton hmiddle
  have ht := tokenize_spell_middle h
  rw [← lay_shift_back, hmiddle] at ht
  simpa using ht

/-- Parts of a source between the ends of tokens make the tokens in them, and what is left of a
source at a token goes on as it does in the source. -/
theorem tokenize_slice_of_tokens (source : String) (keywordOperators : Bool) :
    let stream := (ofSource source keywordOperators).drain
    (∀ tokens, tokenize source keywordOperators = .ok tokens →
      ∀ i j first last, i ≤ j → tokens[i]? = some first → tokens[j]? = some last →
        tokenize (slice source first.start last.stop) keywordOperators =
          .ok ((tokens.extract i (j + 1)).map (Token.shift (-first.start)))) ∧
    (∀ e, stream.failure = some (.lexical e) → ∀ i t, stream.tokens[i]? = some t →
      let left := (ofSource (slice source t.start source.length) keywordOperators).drain
      left.tokens = (stream.tokens.drop i).map (Token.shift (-t.start)) ∧
        ∃ e', left.failure = some (.lexical e') ∧ e'.fault = e.fault ∧
          e'.offset = e.offset - t.start) ∧
    ∀ t ∈ stream.tokens, tokenize t.text keywordOperators = .ok [t.shift (-t.start)] := by
  intro stream
  obtain ⟨pieces, rest, fault, hc⟩ := exists_cut keywordOperators source
  obtain ⟨ht, hf⟩ : stream.tokens = lay 0 pieces ∧ stream.failure = _ := drain_of_cut hc
  rw [ht, hf]
  refine ⟨?_, ?_, fun t => tokenize_text_of_mem hc.before⟩
  · intro tokens htokens i j first last hij hi hj
    obtain ⟨pieces, hs, hb, rfl⟩ := tokenize_eq_ok_iff.mp htokens
    obtain ⟨before, middle, after, rfl, hm, hfirst, hlast⟩ := exists_middle hij hi hj
    rw [hm, hfirst, hlast, slice_spell hs, tokenize_spell_middle hb, lay_shift_back]
  · intro e he i t hi
    obtain ⟨before, after, rfl, -, hd⟩ :=
      lay_eq_append_iff.mp (List.take_append_drop i (lay 0 pieces)).symm
    rw [Int.zero_add] at hd
    have hhead : (lay (spell before).length after).head? = some t := by
      rw [hd, List.head?_drop, hi]
    obtain ⟨hl, hlf⟩ := drain_of_cut (cut_slice hc)
    rw [start_of_lay hhead, ← hd, lay_shift_back]
    refine ⟨hl, ?_⟩
    cases fault with
    | none => exact nomatch he
    | some fault =>
      obtain rfl := Failure.lexical.inj (Option.some.inj he)
      refine ⟨_, hlf, rfl, ?_⟩
      simp only [spell_append, List.length_append]
      omega

end TokenStream
