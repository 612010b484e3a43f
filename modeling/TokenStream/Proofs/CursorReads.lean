import TokenStream.Proofs.ObservedCursor

/-!
Reads of a cursor. An element may be asked for by its distance from the current one, by going to it,
or by its index. All of these find the element at one index, which counts from zero, and fail where
that index is outside the elements; no index counts from the end.
-/
namespace TokenStream.Cursor

universe u v w z

/-- What can be read of the elements from where the cursor is. -/
structure ReadsAgree {α : Type u} (elements : List α) (c : Cursor α) : Prop where
  peek_inside : ∀ (offset : Int) (i : Nat) (h : i < elements.length),
    (c.position : Int) - 1 + offset = i → c.peek offset = .ok elements[i]
  peek_outside : ∀ offset : Int,
    ¬ (0 ≤ (c.position : Int) - 1 + offset ∧ (c.position : Int) - 1 + offset < elements.length) →
      c.peek offset = .error ⟨.peek, c.position - 1 + offset, elements.length⟩
  /-- The current element is the one at offset zero, and where there is none the same index is
  reported. -/
  current_eq : c.current = (c.peek 0).mapError fun e => { e with cause := .current }
  goTo_inside : ∀ target : Nat, target ≤ elements.length →
    ∃ d, c.goTo target = .ok d ∧ d.position = target ∧ d.elements = elements ∧
      (1 ≤ target → ∃ x, d.current = .ok x ∧ c.peek (target - c.position) = .ok x ∧
        c.getRange (target - 1) 1 = .ok [x] ∧ d.getRange (target - 1) 1 = .ok [x])
  goTo_outside : ∀ target : Int, ¬ (0 ≤ target ∧ target ≤ elements.length) →
    c.goTo target = .error ⟨.goTo, target, elements.length⟩
  getRange_inside : ∀ start count : Nat, start + count ≤ elements.length →
    ∃ run, c.getRange start count = .ok run ∧ run.length = count ∧
      ∀ i < count, run[i]? = elements[start + i]?
  getRange_outside : ∀ start count : Int,
    start < 0 ∨ count < 0 ∨ (elements.length : Int) < start + count →
      c.getRange start count = .error ⟨.range, start + count, elements.length⟩
  getRange_append : ∀ (start count more : Int) (run : List α), 0 ≤ count → 0 ≤ more →
    c.getRange start (count + more) = .ok run →
      ∃ first second, c.getRange start count = .ok first ∧
        c.getRange (start + count) more = .ok second ∧ first ++ second = run
  remaining_eq : c.getRange c.position (elements.length - c.position) = .ok c.remaining

variable {α : Type u} {c d : Cursor α} {x : α} {offset start count : Int} {i : Nat} {run : List α}

/-! ### Elements by their distance -/

theorem getElem?_ahead (k : Nat) : c.ahead[k]? = c.elements[c.position + k]? := by
  rw [elements, c.position_eq, ← List.length_reverse, List.getElem?_append_right (by omega)]
  simp

theorem getElem?_behind {k : Nat} (h : k < c.position) :
    c.behind[k]? = c.elements[c.position - 1 - k]? := by
  have hl : k < c.behind.length := c.position_eq ▸ h
  rw [elements, c.position_eq, List.getElem?_append_left (by rw [List.length_reverse]; omega),
    List.getElem?_reverse (by omega)]
  congr 1
  omega

/-- An offset stands for one index. -/
theorem peek?_of_index (h : (c.position : Int) - 1 + offset = i) :
    c.peek? offset = c.elements[i]? := by
  unfold peek?
  split
  · next ho =>
    rw [getElem?_ahead]
    congr 1
    omega
  · next ho =>
    rw [getElem?_behind (by omega)]
    congr 1
    omega

theorem peek?_of_negative (h : (c.position : Int) - 1 + offset < 0) : c.peek? offset = none := by
  have ho : ¬ 0 < offset := by omega
  rw [peek?, if_neg ho, List.getElem?_eq_none_iff, ← c.position_eq]
  omega

theorem peek_of_getElem? (h : (c.position : Int) - 1 + offset = i) (hx : c.elements[i]? = some x) :
    c.peek offset = .ok x := by
  rw [peek, peek?_of_index h, hx]

theorem peek_of_outside
    (h : ¬ (0 ≤ (c.position : Int) - 1 + offset ∧
      (c.position : Int) - 1 + offset < c.elements.length)) :
    c.peek offset = .error ⟨.peek, c.position - 1 + offset, c.elements.length⟩ := by
  have hn : c.peek? offset = none := by
    by_cases hneg : (c.position : Int) - 1 + offset < 0
    · exact peek?_of_negative hneg
    · obtain ⟨i, hi⟩ := Int.eq_ofNat_of_zero_le (by omega : 0 ≤ (c.position : Int) - 1 + offset)
      rw [peek?_of_index hi, List.getElem?_eq_none_iff]
      omega
  rw [peek, hn, length_elements]

theorem current_eq_peek : c.current = (c.peek 0).mapError fun e => { e with cause := .current } := by
  have hp : c.peek? 0 = c.behind[0]? := rfl
  rw [current, peek, hp, Int.add_zero]
  cases c.behind with
  | nil => rfl
  | cons x before => rfl

/-! ### Slices -/

/-- A slice is found by two indices within the elements, and by no others. -/
theorem getRange_eq_ok_iff :
    c.getRange start count = .ok run ↔
      ∃ i k : Nat, start = i ∧ count = k ∧ i + k ≤ c.elements.length ∧
        run = (c.elements.drop i).take k := by
  rw [getRange, ← length_elements]
  constructor
  · intro h
    split at h
    · simp at h
    · next hn =>
      refine ⟨start.toNat, count.toNat, by omega, by omega, by omega, ?_⟩
      exact (Except.ok.inj h).symm
  · rintro ⟨i, k, rfl, rfl, hle, rfl⟩
    have hn : ¬ ((i : Int) < 0 ∨ (k : Int) < 0 ∨ (c.elements.length : Int) < i + k) := by omega
    rw [if_neg hn, Int.toNat_natCast, Int.toNat_natCast]

theorem getRange_of_outside (h : start < 0 ∨ count < 0 ∨ (c.elements.length : Int) < start + count) :
    c.getRange start count = .error ⟨.range, start + count, c.elements.length⟩ := by
  rw [length_elements] at h ⊢
  rw [getRange, if_pos h]

/-- Where the cursor is does not matter to a slice. -/
theorem getRange_congr (h : d.elements = c.elements) :
    d.getRange start count = c.getRange start count := by
  have hl : d.length = c.length := by rw [← length_elements, h, length_elements]
  rw [getRange, getRange, hl, h]

/-- A slice of one element. -/
theorem getRange_one (h : c.elements[i]? = some x) : c.getRange i 1 = .ok [x] := by
  obtain ⟨hi, rfl⟩ := List.getElem?_eq_some_iff.mp h
  refine getRange_eq_ok_iff.mpr ⟨i, 1, rfl, rfl, hi, ?_⟩
  rw [List.drop_eq_getElem_cons hi, List.take_succ_cons, List.take_zero]

theorem exists_getRange_append {more : Int} (hc : 0 ≤ count) (hm : 0 ≤ more)
    (h : c.getRange start (count + more) = .ok run) :
    ∃ first second, c.getRange start count = .ok first ∧
      c.getRange (start + count) more = .ok second ∧ first ++ second = run := by
  obtain ⟨i, n, rfl, hn, hle, rfl⟩ := getRange_eq_ok_iff.mp h
  obtain ⟨k, rfl⟩ := Int.eq_ofNat_of_zero_le hc
  obtain ⟨l, rfl⟩ := Int.eq_ofNat_of_zero_le hm
  obtain rfl : k + l = n := by omega
  refine ⟨(c.elements.drop i).take k, (c.elements.drop (i + k)).take l,
    getRange_eq_ok_iff.mpr ⟨i, k, rfl, rfl, by omega, rfl⟩,
    getRange_eq_ok_iff.mpr ⟨i + k, l, rfl, rfl, by omega, rfl⟩, ?_⟩
  rw [List.take_add, List.drop_drop]

theorem getRange_remaining :
    c.getRange c.position (c.elements.length - c.position) = .ok c.remaining := by
  have hl : c.elements.length = c.position + c.ahead.length := length_elements
  refine getRange_eq_ok_iff.mpr ⟨c.position, c.ahead.length, rfl, by omega, by omega, ?_⟩
  rw [drop_position, List.take_length, remaining]

/-! ### Going to a position -/

theorem goTo_of_inside {target : Nat} (h : target ≤ c.elements.length) :
    ∃ d, c.goTo target = .ok d ∧ d.position = target := by
  have hn : ¬ ((target : Int) < 0 ∨ (c.length : Int) < target) := by
    rw [← length_elements]
    omega
  refine ⟨(ofList c.elements).skip target, ?_, ?_⟩
  · rw [goTo, if_neg hn, Int.toNat_natCast]
  · have ha : (ofList c.elements).ahead = c.elements := rfl
    have hp : (ofList c.elements).position = 0 := rfl
    rw [position_skip, ha, hp, Nat.min_eq_left h, Nat.zero_add]

theorem goTo_of_outside {target : Int} (h : ¬ (0 ≤ target ∧ target ≤ c.elements.length)) :
    c.goTo target = .error ⟨.goTo, target, c.elements.length⟩ := by
  rw [length_elements] at h ⊢
  rw [goTo, if_pos (by omega)]

theorem readsAgree (c : Cursor α) : ReadsAgree c.elements c where
  peek_inside := fun offset i h hi => peek_of_getElem? hi (List.getElem?_eq_getElem h)
  peek_outside := fun offset => peek_of_outside
  current_eq := current_eq_peek
  goTo_inside := by
    intro target ht
    obtain ⟨d, hd, hp⟩ := goTo_of_inside ht
    have he := elements_goTo hd
    refine ⟨d, hd, hp, he, ?_⟩
    intro hpos
    obtain ⟨i, rfl⟩ := Nat.exists_eq_add_of_le' hpos
    have hi : i < c.elements.length := ht
    have hc : c.elements[i]? = some c.elements[i] := List.getElem?_eq_getElem hi
    have hs : ((i + 1 : Nat) : Int) - 1 = i := by omega
    have hx : d.elements[i]? = some c.elements[i] := by
      rw [he]
      exact hc
    rw [getRange_congr he, hs, getRange_one hc, current_eq_peek]
    refine ⟨c.elements[i], ?_, peek_of_getElem? (by omega) hc, rfl, rfl⟩
    rw [peek_of_getElem? (by omega) hx]
    rfl
  goTo_outside := fun target => goTo_of_outside
  getRange_inside := by
    intro start count hle
    refine ⟨(c.elements.drop start).take count,
      getRange_eq_ok_iff.mpr ⟨start, count, rfl, rfl, hle, rfl⟩, ?_, ?_⟩
    · rw [List.length_take, List.length_drop]
      omega
    · intro i hi
      rw [List.getElem?_take_of_lt hi, List.getElem?_drop]
  getRange_outside := fun start count => getRange_of_outside
  getRange_append := fun start count more run => exists_getRange_append
  remaining_eq := getRange_remaining

end TokenStream.Cursor
