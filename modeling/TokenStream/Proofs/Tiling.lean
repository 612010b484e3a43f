import Mathlib.Logic.ExistsUnique

/-! Intervals that follow one another, so that every place is in exactly one of them. -/
namespace TokenStream

/-- The intervals are not empty, and follow one another from `a` to `b`. -/
def Tiles : Int → List (Int × Int) → Int → Prop
  | a, [], b => a = b
  | a, (start, stop) :: rest, b => start = a ∧ start < stop ∧ Tiles stop rest b

variable {a b d i : Int} {intervals intervals' : List (Int × Int)}

theorem le_of_tiles (h : Tiles a intervals b) : a ≤ b := by
  induction intervals generalizing a with
  | nil => exact Int.le_of_eq h
  | cons interval rest ih =>
    obtain ⟨rfl, hlt, h⟩ := h
    have := ih h
    omega

theorem eq_nil_of_tiles (h : Tiles a intervals a) : intervals = [] := by
  cases intervals with
  | nil => rfl
  | cons interval rest =>
    obtain ⟨rfl, hlt, h⟩ := h
    have := le_of_tiles h
    omega

theorem tiles_append {m : Int} (h : Tiles a intervals m) (h' : Tiles m intervals' b) :
    Tiles a (intervals ++ intervals') b := by
  induction intervals generalizing a with
  | nil =>
    obtain rfl : a = m := h
    exact h'
  | cons interval rest ih =>
    obtain ⟨hs, hlt, h⟩ := h
    exact ⟨hs, hlt, ih h⟩

theorem tiles_shift (h : Tiles a intervals b) :
    Tiles (a + d) (intervals.map fun x => (x.1 + d, x.2 + d)) (b + d) := by
  induction intervals generalizing a with
  | nil =>
    obtain rfl : a = b := h
    rfl
  | cons interval rest ih =>
    obtain ⟨rfl, hlt, h⟩ := h
    exact ⟨rfl, by omega, ih h⟩

theorem bounds_of_tiles (h : Tiles a intervals b) {interval : Int × Int}
    (hm : interval ∈ intervals) : a ≤ interval.1 ∧ interval.1 < interval.2 ∧ interval.2 ≤ b := by
  induction intervals generalizing a with
  | nil => simp at hm
  | cons first rest ih =>
    obtain ⟨rfl, hlt, h⟩ := h
    rcases List.mem_cons.mp hm with rfl | hm
    · exact ⟨Int.le_refl _, hlt, le_of_tiles h⟩
    · have := ih h hm
      omega

theorem pairwise_of_tiles (h : Tiles a intervals b) :
    intervals.Pairwise fun x y => x.1 < y.1 := by
  induction intervals generalizing a with
  | nil => exact .nil
  | cons first rest ih =>
    obtain ⟨-, hlt, h⟩ := h
    refine .cons ?_ (ih h)
    intro interval hm
    have := bounds_of_tiles h hm
    omega

/-- Every place of the tiled part is in exactly one of the intervals. -/
theorem existsUnique_of_tiles (h : Tiles a intervals b) (ha : a ≤ i) (hb : i < b) :
    ∃! k : Nat, ∃ x, intervals[k]? = some x ∧ x.1 ≤ i ∧ i < x.2 := by
  induction intervals generalizing a with
  | nil =>
    obtain rfl : a = b := h
    omega
  | cons first rest ih =>
    obtain ⟨rfl, hlt, h⟩ := h
    by_cases hi : i < first.2
    · refine ⟨0, ⟨first, rfl, ha, hi⟩, ?_⟩
      rintro (_ | k) ⟨x, hx, hx1, hx2⟩
      · rfl
      · have := bounds_of_tiles h (List.mem_of_getElem? hx)
        omega
    · obtain ⟨k, ⟨x, hx, hc⟩, hu⟩ := ih h (by omega)
      refine ⟨k + 1, ⟨x, hx, hc⟩, ?_⟩
      rintro (_ | k') ⟨y, hy, hy1, hy2⟩
      · obtain rfl : first = y := by simpa using hy
        omega
      · rw [hu k' ⟨y, hy, hy1, hy2⟩]

end TokenStream
