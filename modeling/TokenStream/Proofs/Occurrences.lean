import Mathlib.Order.Bounds.Basic
import TokenStream.Proofs.BulkAdvance

/-!
Searching with a cursor. A search finds the first element from its start on that equals the given
one, and a loop that searches again behind each index it finds comes to an end and records the
indices of all of them, in order. The cursor stays where it is.
-/
namespace TokenStream.Cursor

universe u v w

section
variable {α : Type u} {ε : Type v} {σ : Type w} [BEq α]

/-- The element at an index equals `x`. -/
def Occurs (elements : List α) (x : α) (i : Int) : Prop :=
  ∃ j : Nat, i = j ∧ ∃ y, elements[j]? = some y ∧ (y == x) = true

/-- Where a search begins. A negative start counts from the end, and not further than to the first
element. -/
def searchStart (length : Nat) (start : Int) : Int :=
  if 0 ≤ start then start else max 0 (start + length)

/-- The indices from `first` on where `x` occurs. -/
def occurrencesFrom (elements : List α) (x : α) (first : Int) : Set Int :=
  {i | first ≤ i ∧ i < elements.length ∧ Occurs elements x i}

/-- The loop that searches from an index on, and behind each index it finds, until there is none:
the indices it records, and what it leaves behind. -/
inductive SearchesThrough (observe : α → Consult σ ε Unit) (x : α) :
    σ → Cursor α → Int → List Int → σ → Cursor α → Prop
  | ended {memory : σ} {c : Cursor α} {start : Int} {o : Outcome α ε σ (Reply α)}
    (ha : act observe (.indexOf x start) memory c = o) (hr : o.result = .ok (.number (-1))) :
    SearchesThrough observe x memory c start [] o.memory o.cursor
  | found {memory last : σ} {c d : Cursor α} {start i : Int} {o : Outcome α ε σ (Reply α)}
    {indices : List Int} (ha : act observe (.indexOf x start) memory c = o)
    (hr : o.result = .ok (.number i)) (hi : i ≠ -1)
    (hs : SearchesThrough observe x o.memory o.cursor (i + 1) indices last d) :
    SearchesThrough observe x memory c start (i :: indices) last d

end

variable {α : Type u} {ε : Type v} {σ : Type w} [BEq α] {observe : α → Consult σ ε Unit}
  {memory last last' : σ} {c d d' : Cursor α} {elements : List α} {x : α} {start : Int}
  {i first : Nat} {indices indices' : List Int}

theorem occurs_natCast_iff :
    Occurs elements x i ↔ ∃ y, elements[i]? = some y ∧ (y == x) = true := by
  constructor
  · rintro ⟨j, hj, hy⟩
    obtain rfl : i = j := Int.ofNat_inj.mp hj
    exact hy
  · intro hy
    exact ⟨i, rfl, hy⟩

theorem lt_length_of_occurs (h : Occurs elements x start) : start < elements.length := by
  obtain ⟨j, rfl, y, hy, -⟩ := h
  have := (List.getElem?_eq_some_iff.mp hy).1
  omega

theorem mem_occurrencesFrom_iff {first i : Int} :
    i ∈ occurrencesFrom elements x first ↔ first ≤ i ∧ Occurs elements x i := by
  constructor
  · rintro ⟨hf, -, ho⟩
    exact ⟨hf, ho⟩
  · rintro ⟨hf, ho⟩
    exact ⟨hf, lt_length_of_occurs ho, ho⟩

theorem exists_searchStart (length : Nat) (start : Int) :
    ∃ first : Nat, searchStart length start = first := by
  apply Int.eq_ofNat_of_zero_le
  unfold searchStart
  split <;> omega

/-! ### One search -/

/-- The search goes through the elements from the start on. -/
theorem indexOf?_eq (h : searchStart c.elements.length start = first) :
    c.indexOf? x start = ((c.elements.drop first).findIdx? (· == x)).map (· + first) := by
  have hf : (if 0 ≤ start then start.toNat else (start + c.length).toNat) = first := by
    rw [length_elements] at h
    unfold searchStart at h
    split <;> split at h <;> omega
  rw [indexOf?, hf]

theorem isLeast_of_indexOf? (h : searchStart c.elements.length start = first)
    (hi : c.indexOf? x start = some i) : IsLeast (occurrencesFrom c.elements x first) i := by
  rw [indexOf?_eq h] at hi
  obtain ⟨k, hk, rfl⟩ := Option.map_eq_some_iff.mp hi
  obtain ⟨hlt, heq, hbefore⟩ := List.findIdx?_eq_some_iff_getElem.mp hk
  constructor
  · refine mem_occurrencesFrom_iff.mpr ⟨by omega, occurs_natCast_iff.mpr ⟨_, ?_, heq⟩⟩
    rw [Nat.add_comm, ← List.getElem?_drop]
    exact List.getElem?_eq_getElem hlt
  · intro j hj
    obtain ⟨hf, j, rfl, y, hy, he⟩ := mem_occurrencesFrom_iff.mp hj
    obtain ⟨l, rfl⟩ := Nat.exists_eq_add_of_le (Int.ofNat_le.mp hf)
    by_contra hlt'
    have hl : l < k := by omega
    rw [← List.getElem?_drop] at hy
    obtain ⟨hl', rfl⟩ := List.getElem?_eq_some_iff.mp hy
    exact hbefore l hl he

theorem occurrencesFrom_eq_empty (h : searchStart c.elements.length start = first)
    (hn : c.indexOf? x start = none) : occurrencesFrom c.elements x first = ∅ := by
  rw [indexOf?_eq h, Option.map_eq_none_iff, List.findIdx?_eq_none_iff] at hn
  apply Set.eq_empty_of_forall_notMem
  intro j hj
  obtain ⟨hf, j, rfl, y, hy, he⟩ := mem_occurrencesFrom_iff.mp hj
  obtain ⟨l, rfl⟩ := Nat.exists_eq_add_of_le (Int.ofNat_le.mp hf)
  rw [← List.getElem?_drop] at hy
  simp [hn y (List.mem_of_getElem? hy)] at he

/-- All that a search may answer. -/
inductive Found (occurrences : Set Int) : Int → Prop
  | least {i : Nat} (h : IsLeast occurrences i) : Found occurrences i
  | absent (h : occurrences = ∅) : Found occurrences (-1)

theorem found_indexOf (c : Cursor α) (x : α) (start : Int) :
    Found (occurrencesFrom c.elements x (searchStart c.elements.length start))
      (c.indexOf x start) := by
  obtain ⟨first, hf⟩ := exists_searchStart c.elements.length start
  rw [hf, indexOf]
  split
  · next i hi => exact .least (isLeast_of_indexOf? hf hi)
  · next hn => exact .absent (occurrencesFrom_eq_empty hf hn)

theorem eq_neg_one_iff_of_found {occurrences : Set Int} {r : Int} (h : Found occurrences r) :
    (r = -1 ↔ occurrences = ∅) ∧ (r ≠ -1 → IsLeast occurrences r) := by
  cases h with
  | least h =>
    refine ⟨⟨by omega, ?_⟩, fun _ => h⟩
    intro he
    exact absurd h.1 (he ▸ Set.notMem_empty _)
  | absent h => exact ⟨⟨fun _ => h, fun _ => rfl⟩, fun hn => absurd rfl hn⟩

theorem act_indexOf :
    act observe (.indexOf x start) memory c =
      ⟨.ok (.number (c.indexOf x start)), c, [], memory⟩ := rfl

/-! ### The loop -/

/-- The indices of all occurrences from `first` on, in order. -/
structure Lists (elements : List α) (x : α) (first : Int) (indices : List Int) : Prop where
  increasing : indices.Pairwise (· < ·)
  mem_iff : ∀ i, i ∈ indices ↔ first ≤ i ∧ Occurs elements x i

theorem lists_nil {first : Int} (h : occurrencesFrom elements x first = ∅) :
    Lists elements x first [] where
  increasing := .nil
  mem_iff := by
    intro i
    rw [← mem_occurrencesFrom_iff, h]
    simp

theorem lists_cons {first i : Int} (h : IsLeast (occurrencesFrom elements x first) i)
    (hl : Lists elements x (i + 1) indices) : Lists elements x first (i :: indices) where
  increasing := by
    refine .cons ?_ hl.increasing
    intro j hj
    have := (hl.mem_iff j).mp hj
    omega
  mem_iff := by
    obtain ⟨hf, ho⟩ := mem_occurrencesFrom_iff.mp h.1
    intro j
    rw [List.mem_cons, hl.mem_iff]
    constructor
    · rintro (rfl | ⟨hj, hoj⟩)
      · exact ⟨hf, ho⟩
      · exact ⟨by omega, hoj⟩
    · rintro ⟨hj, hoj⟩
      have hle : i ≤ j := h.2 (mem_occurrencesFrom_iff.mpr ⟨hj, hoj⟩)
      by_cases he : j = i
      · exact .inl he
      · exact .inr ⟨by omega, hoj⟩

/-- The loop comes to its end: each search starts further on, and none finds anything behind the
last element. -/
theorem exists_searchesThrough (observe : α → Consult σ ε Unit) (memory : σ) (c : Cursor α) (x : α)
    (first : Nat) : ∃ indices, SearchesThrough observe x memory c first indices memory c ∧
      Lists c.elements x first indices := by
  induction hn : c.elements.length - first using Nat.strong_induction_on generalizing first with
  | h n ih =>
    have hs : searchStart c.elements.length first = first := by simp [searchStart]
    have ha := @act_indexOf _ _ _ _ observe memory c x first
    have hf := found_indexOf c x first
    rw [hs] at hf
    generalize c.indexOf x first = r at ha hf
    cases hf with
    | absent h => exact ⟨[], .ended ha rfl, lists_nil h⟩
    | @least i h =>
      obtain ⟨hle, hlt, -⟩ := h.1
      obtain ⟨indices, hrest, hl⟩ := ih _ (by omega) (i + 1) rfl
      exact ⟨i :: indices, .found ha rfl (by omega) hrest, lists_cons h hl⟩

/-- The loop goes one way only. -/
theorem searchesThrough_unique (h : SearchesThrough observe x memory c start indices last d)
    (h' : SearchesThrough observe x memory c start indices' last' d') :
    indices = indices' ∧ last = last' ∧ d = d' := by
  induction h generalizing indices' last' d' with
  | ended ha hr =>
    subst ha
    cases h' with
    | ended ha' =>
      subst ha'
      exact ⟨rfl, rfl, rfl⟩
    | found ha' hr' hi' =>
      subst ha'
      obtain rfl : -1 = _ := by simpa [hr] using hr'
      exact absurd rfl hi'
  | found ha hr hi _ ih =>
    subst ha
    cases h' with
    | ended ha' hr' =>
      subst ha'
      obtain rfl : _ = -1 := by simpa [hr] using hr'
      exact absurd rfl hi
    | found ha' hr' _ hs' =>
      subst ha'
      obtain rfl : _ = _ := by simpa [hr] using hr'
      obtain ⟨rfl, rfl, rfl⟩ := ih hs'
      exact ⟨rfl, rfl, rfl⟩

theorem getRange_of_occurs {i : Int} (h : Occurs c.elements x i) :
    ∃ run, c.getRange i 1 = .ok run ∧ (run == [x]) = true := by
  obtain ⟨j, rfl, y, hy, he⟩ := h
  refine ⟨[y], getRange_one hy, ?_⟩
  simpa using he

end TokenStream.Cursor
