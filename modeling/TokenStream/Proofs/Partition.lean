import Mathlib.Data.List.Chain
import TokenStream.Lexer.Recovery
import TokenStream.Proofs.Junction
import TokenStream.Proofs.Lossless

/-!
Reading on after errors. The items of a source tile it: every character is in one token or is the
place of one error. Tokens that follow each other were cut where the lexer had to cut.
-/
namespace TokenStream

namespace Item

/-- Where an item starts. -/
def position : Item → Int
  | token t => t.start
  | fault _ offset => offset

def interval : Item → Int × Int
  | token t => t.interval
  | fault _ offset => (offset, offset + 1)

/-- An item holds the characters of its token, or the one that its error is at. -/
def Covers (i : Int) : Item → Prop
  | token t => t.start ≤ i ∧ i < t.stop
  | fault _ offset => i = offset

/-- Two tokens that the lexer would have read as one. -/
def Mergeable : Item → Item → Prop
  | token t, token u => ∃ c, u.text.toList.head? = some c ∧ Joins t c
  | _, _ => False

theorem covers_iff {item : Item} {i : Int} :
    item.Covers i ↔ item.interval.1 ≤ i ∧ i < item.interval.2 := by
  cases item with
  | token t => exact Iff.rfl
  | fault f offset =>
    simp only [Covers, interval]
    omega

theorem interval_fst {item : Item} : item.interval.1 = item.position := by
  cases item <;> rfl

end Item

/-! ### The loop -/

/-- The tokens and the end of what is left of a source from an offset on. -/
def drainFrom (source : String) (base : Nat) : Lexer.Drained :=
  (Lexer.ofSource (String.ofList (source.toList.drop base)) true).drain

/-- The tokens among the items, moved to their places in the source. -/
def itemsOf (base : Nat) (tokens : List Token) : List Item :=
  tokens.map fun token => .token (token.shift base)

/-- The loop that goes on with a fresh lexer behind each error, until there is none. -/
inductive Resumes (source : String) : Nat → List Item → Prop
  | done {base : Nat} (h : (drainFrom source base).failure = none) :
    Resumes source base (itemsOf base (drainFrom source base).tokens)
  | restart {base offset : Nat} {e : LexError} {items : List Item}
    (h : (drainFrom source base).failure = some (.lexical e)) (ho : e.offset = offset)
    (hr : Resumes source (base + offset + 1) items) :
    Resumes source base
      (itemsOf base (drainFrom source base).tokens ++ .fault e.fault (base + offset) :: items)

variable {source : String} {base : Nat} {items : List Item} {kw : Bool} {s : Nat}
  {tokens : List Token} {ending : Option Failure}

theorem drainFrom_cases (source : String) (base : Nat) :
    ∃ last : Nat, Tiles 0 ((drainFrom source base).tokens.map Token.interval) last ∧
      (((drainFrom source base).failure = none ∧ last = source.length - base) ∨
        (∃ e, (drainFrom source base).failure = some (.lexical e) ∧ e.offset = last) ∧
          last < source.length - base) := by
  have hs := Lexer.stream_drain (String.ofList (source.toList.drop base)) true
  obtain ⟨last, ht, ⟨he, hl⟩ | ⟨⟨c, he⟩, hl⟩⟩ := Lexer.tiles_of_stream hs
  · exact ⟨last, ht, Or.inl ⟨he, by simpa [String.length_toList] using hl⟩⟩
  · exact ⟨last, ht, Or.inr ⟨⟨_, he, rfl⟩, by simpa [String.length_toList] using hl⟩⟩

theorem resumes_itemsFrom {text : List Char} (hd : source.toList.drop base = text) :
    Resumes source base (itemsFrom base text) := by
  induction base, text using itemsFrom.induct with
  | case1 base =>
    have hle : source.length ≤ base := by
      simpa [String.length_toList] using List.drop_eq_nil_iff.mp hd
    obtain ⟨last, ht, ⟨he, hl⟩ | ⟨-, hl⟩⟩ := drainFrom_cases source base
    · obtain rfl : last = 0 := by omega
      have hn : (drainFrom source base).tokens = [] := by simpa using eq_nil_of_tiles ht
      have hr := Resumes.done he
      simpa [itemsFrom, itemsOf, hn] using hr
    · omega
  | case2 base c rest drained e he skipped offset ih =>
    have hdf : drainFrom source base = drained := by rw [drainFrom, hd]
    have hs : source.toList.drop (offset + 1) = rest.drop skipped := by
      have ho : offset + 1 = base + (skipped + 1) := by omega
      rw [ho, ← List.drop_drop, hd, List.drop_succ_cons]
    obtain ⟨last, -, ⟨hn, -⟩ | ⟨⟨e', he', hl⟩, -⟩⟩ := drainFrom_cases source base
    · simp [hdf, he] at hn
    · obtain rfl : e = e' := by simpa [hdf, he] using he'
      have hi : itemsFrom base (c :: rest) =
          itemsOf base drained.tokens ++
            .fault e.fault (base + skipped) :: itemsFrom (offset + 1) (rest.drop skipped) := by
        rw [itemsFrom]
        simp only [drained] at he
        simp only [he]
        rfl
      have ho : e.offset = skipped := by omega
      rw [hi, ← hdf]
      exact .restart he' ho (ih hs)
  | case3 base c rest drained hn =>
    have hdf : drainFrom source base = drained := by rw [drainFrom, hd]
    obtain ⟨last, -, ⟨he, -⟩ | ⟨⟨e, he, -⟩, -⟩⟩ := drainFrom_cases source base
    · have hr := Resumes.done he
      rw [hdf] at he
      have hi : itemsFrom base (c :: rest) = itemsOf base drained.tokens := by
        rw [itemsFrom]
        simp only [drained] at he
        simp only [he]
        rfl
      rw [hi, ← hdf]
      exact hr
    · exact (hn e (hdf ▸ he)).elim

/-! ### What the loop lists -/

/-- The items are what stands between two offsets of the source, cut where it had to be cut. -/
structure Partitions (source : String) (first : Int) (items : List Item) (last : Int) : Prop where
  tiles : Tiles first (items.map Item.interval) last
  texts : ∀ t : Token, .token t ∈ items → t.StandsIn source
  cuts : items.IsChain fun x y => ¬ x.Mergeable y

theorem slice_drop {a b : Int} (ha : 0 ≤ a) :
    slice (String.ofList (source.toList.drop base)) a b = slice source (a + base) (b + base) := by
  have hs : (a + base).toNat = base + a.toNat := by omega
  have hl : b + base - (a + base) = b - a := by omega
  simp [slice, hs, hl, List.drop_drop]

theorem standsIn_shift {t : Token} (h : t.StandsIn (String.ofList (source.toList.drop base)))
    (hp : 0 ≤ t.start) : (t.shift base).StandsIn source where
  ne_empty := h.ne_empty
  slice_eq := (slice_drop hp).symm.trans h.slice_eq
  stop_eq := by
    have := h.stop_eq
    simp only [Token.shift]
    omega

theorem tiles_itemsOf {last : Int} (h : Tiles 0 (tokens.map Token.interval) last) :
    Tiles base ((itemsOf base tokens).map Item.interval) (base + last) := by
  have hs : Tiles (0 + base) _ (last + base) := tiles_shift h
  rw [Int.zero_add, Int.add_comm, List.map_map] at hs
  rw [itemsOf, List.map_map]
  exact hs

theorem head_of_stream {t : Token} (h : Lexer.Stream kw source s (t :: tokens) ending) :
    t.text.toList.head? = (source.toList.drop s).head? := by
  cases h with
  | @token _ kind word _ _ h _ =>
    obtain ⟨rest, hr⟩ := h.starts
    rw [← hr, String.toList_ofList, List.head?_append_of_ne_nil _ (lexeme_ne_nil h.lexeme)]

/-- A token that is the longest one does not join what follows it. -/
theorem cuts_of_stream (h : Lexer.Stream kw source s tokens ending) :
    tokens.IsChain fun t u => ¬ ∃ c, u.text.toList.head? = some c ∧ Joins t c := by
  induction h with
  | finished => exact .nil
  | failed => exact .nil
  | @token s kind word tokens ending h hs ih =>
    refine List.isChain_cons.mpr ⟨?_, ih⟩
    rintro u hu ⟨c, hc, hj⟩
    obtain ⟨rest, hr⟩ := h.starts
    have hd : source.toList.drop (s + word.length) = rest := by
      rw [← List.drop_drop, ← hr, List.drop_left]
    obtain ⟨tokens, rfl⟩ := List.head?_eq_some_iff.mp hu
    rw [head_of_stream hs, hd] at hc
    rw [← hr, longest_append_iff] at h
    exact h.2 c hc ((joins_iff_extends h.1).mp hj)

/-- The items of one lexer, which ends at the offset `last` of what it reads. -/
theorem partitions_itemsOf {last : Int}
    (ht : Tiles 0 ((drainFrom source base).tokens.map Token.interval) last) :
    Partitions source base (itemsOf base (drainFrom source base).tokens) (base + last) := by
  have hs := Lexer.stream_drain (String.ofList (source.toList.drop base)) true
  refine ⟨tiles_itemsOf ht, ?_, ?_⟩
  · intro t hm
    obtain ⟨u, hu, rfl⟩ := by simpa [itemsOf] using hm
    have hp : 0 ≤ u.start := (bounds_of_tiles ht (List.mem_map_of_mem hu)).1
    exact standsIn_shift (Lexer.standsIn_of_stream hs u hu) hp
  · rw [itemsOf, List.isChain_map]
    refine (cuts_of_stream hs).imp ?_
    rintro t u hn ⟨c, hc, hj⟩
    exact hn ⟨c, hc, joins_of_shift hj⟩

/-- An error merges with nothing, so the items on both sides of it make one list. -/
theorem partitions_append {first last : Int} {m : Nat} {f : Fault} {items' : List Item}
    (h : Partitions source first items m) (h' : Partitions source (m + 1) items' last) :
    Partitions source first (items ++ .fault f m :: items') last where
  tiles := by
    rw [List.map_append]
    exact tiles_append h.tiles ⟨rfl, Int.lt_succ _, h'.tiles⟩
  texts := by
    intro t hm
    rcases List.mem_append.mp hm with hm | hm
    · exact h.texts t hm
    · exact h'.texts t (by simpa using hm)
  cuts := by
    refine h.cuts.append (List.isChain_cons.mpr ⟨fun y _ => id, h'.cuts⟩) ?_
    rintro x - y hy
    obtain rfl : .fault f m = y := by simpa using hy
    cases x <;> exact id

theorem partitions_of_resumes (h : Resumes source base items) (hb : base ≤ source.length) :
    Partitions source base items source.length := by
  induction h with
  | @done base h =>
    obtain ⟨last, ht, ⟨-, hl⟩ | ⟨⟨e, he, -⟩, -⟩⟩ := drainFrom_cases source base
    · have hp := partitions_itemsOf ht
      have he : (base : Int) + last = source.length := by omega
      exact he ▸ hp
    · simp [h] at he
  | @restart base offset e items h ho _ ih =>
    obtain ⟨last, ht, ⟨he, -⟩ | ⟨⟨e', he, hl⟩, hlt⟩⟩ := drainFrom_cases source base
    · simp [h] at he
    · obtain rfl : e = e' := by simpa [h] using he
      obtain rfl : last = offset := by omega
      exact partitions_append (partitions_itemsOf ht) (ih (by omega))

/-- However often reading fails, no character is lost and none is read twice. -/
theorem resume_partitions (source : String) :
    let items := resume source
    Resumes source 0 items ∧
    (∀ i : Nat, i < source.length → ∃! k : Nat, ∃ item, items[k]? = some item ∧ item.Covers i) ∧
    (∀ item ∈ items, ∀ i, item.Covers i → 0 ≤ i ∧ i < source.length) ∧
    (items.Pairwise fun x y => x.position < y.position) ∧
    (∀ t : Token, .token t ∈ items → t.StandsIn source) ∧
    items.IsChain fun x y => ¬ x.Mergeable y := by
  intro items
  have hr : Resumes source 0 items := resumes_itemsFrom List.drop_zero
  obtain ⟨ht, htexts, hcuts⟩ := partitions_of_resumes hr (Nat.zero_le _)
  refine ⟨hr, ?_, ?_, ?_, htexts, hcuts⟩
  · intro i hi
    have hu := existsUnique_of_tiles ht (i := i) (by omega) (by omega)
    simpa [List.getElem?_map, Item.covers_iff] using hu
  · intro item hm i hc
    obtain ⟨hs, -, he⟩ := bounds_of_tiles ht (List.mem_map_of_mem hm)
    have := Item.covers_iff.mp hc
    omega
  · have hp := pairwise_of_tiles ht
    rw [List.pairwise_map] at hp
    simpa [Item.interval_fst] using hp

end TokenStream
