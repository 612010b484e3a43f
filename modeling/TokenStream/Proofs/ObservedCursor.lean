import TokenStream.Cursor.Observed

/-!
What an observer is told. An operation tells it of the elements that the cursor passes, each once
and in order, even if the operation is stopped on its way; and only moving tells it anything.
-/
namespace TokenStream.Cursor

universe u v w z

/-- The operation that moves without passing anything. -/
def Operation.isGoTo {α : Type u} {π : Type z} : Operation α π → Bool
  | .goTo _ => true
  | _ => false

/-- The operations that only look at the elements. -/
def Operation.onlyReads {α : Type u} {π : Type z} : Operation α π → Bool
  | .position | .atEnd | .length | .describe | .current | .peek _ | .indexOf .. | .getRange ..
  | .remaining => true
  | .advance | .advanceWithCurrent | .goTo _ | .advanceWhile _ | .advanceUntil _
  | .advanceUntilEnd => false

/-- The cursor passed the elements that the observer was told of. -/
structure Outcome.Passes {α : Type u} {ε : Type v} {σ : Type w} {β : Type u} (c : Cursor α)
    (o : Outcome α ε σ β) : Prop where
  starts : o.notified <+: c.ahead
  cursor_eq : o.cursor = c.skip o.notified.length

variable {α : Type u} {ε : Type v} {σ : Type w} {π : Type z} {β γ : Type u}
  {c next : Cursor α} {x : α} {memory : σ} {observe : α → Consult σ ε Unit}
  {keep : α → Consult σ ε Bool} {ask : π → α → Consult σ ε Bool} {operation : Operation α π}

/-! ### One operation -/

theorem passes_nothing {o : Outcome α ε σ β} (hc : o.cursor = c) (hn : o.notified = []) :
    o.Passes c where
  starts := hn ▸ List.nil_prefix
  cursor_eq := by rw [hc, hn, List.length_nil, skip_zero]

theorem passes_one {o : Outcome α ε σ β} (h : c.advance? = some (x, next)) (hc : o.cursor = next)
    (hn : o.notified = [x]) : o.Passes c where
  starts := by
    rw [hn, ahead_of_advance? h]
    exact ⟨next.ahead, rfl⟩
  cursor_eq := by rw [hc, hn, eq_skip_of_advance? h, List.length_singleton]

/-- One element more is passed before the others. -/
theorem passes_cons {o : Outcome α ε σ β} {o' : Outcome α ε σ γ}
    (h : c.advance? = some (x, next)) (ho : o.Passes next) (hc : o'.cursor = o.cursor)
    (hn : o'.notified = x :: o.notified) : o'.Passes c where
  starts := by
    rw [hn, ahead_of_advance? h]
    exact List.cons_prefix_cons.mpr ⟨rfl, ho.starts⟩
  cursor_eq := by
    rw [hc, hn, ho.cursor_eq, skip_of_advance? h, List.length_cons]

theorem passes_map {o : Outcome α ε σ β} (f : β → γ) (h : o.Passes c) : (o.map f).Passes c :=
  ⟨h.starts, h.cursor_eq⟩

theorem passes_observedAdvance : (observedAdvance observe memory c).Passes c := by
  unfold observedAdvance
  split
  · exact passes_nothing rfl rfl
  · next x next h =>
    split
    · exact passes_one h rfl rfl
    · exact passes_one h rfl rfl

/-- All that a run may do: it ends, it is refused before or after a step, or it goes on. -/
inductive Ran : Cursor α → Outcome α ε σ (List α) → Prop
  | ended {c : Cursor α} {memory : σ} : Ran c ⟨.ok [], c, [], memory⟩
  | unasked {c : Cursor α} {e : ε} {memory : σ} : Ran c ⟨.error (.refused e), c, [], memory⟩
  | refused {c next : Cursor α} {x : α} {e : ε} {memory : σ} (h : c.advance? = some (x, next)) :
    Ran c ⟨.error (.refused e), next, [x], memory⟩
  | passed {c next : Cursor α} {x : α} {rest : Outcome α ε σ (List α)}
    (h : c.advance? = some (x, next)) (hr : Ran next rest) :
    Ran c ⟨rest.result.map (x :: ·), rest.cursor, x :: rest.notified, rest.memory⟩

theorem ran_observedRun : Ran c (observedRun observe keep memory c) := by
  fun_induction observedRun observe keep memory c with
  | case1 => exact .ended
  | case2 => exact .unasked
  | case3 => exact .ended
  | case4 _ _ _ _ h => exact .refused h
  | case5 _ _ _ _ h _ _ _ _ _ _ ih => exact .passed h ih

theorem passes_of_ran {o : Outcome α ε σ (List α)} (h : Ran c o) : o.Passes c := by
  induction h with
  | ended => exact passes_nothing rfl rfl
  | unasked => exact passes_nothing rfl rfl
  | refused h => exact passes_one h rfl rfl
  | passed h _ ih => exact passes_cons h ih rfl rfl

theorem passes_observedAdvanceWhile : (observedAdvanceWhile observe keep memory c).Passes c := by
  unfold observedAdvanceWhile
  split
  · exact passes_nothing rfl rfl
  · have h := passes_of_ran (@ran_observedRun _ _ _ c memory observe keep)
    exact ⟨h.starts, h.cursor_eq⟩

theorem passes_operate [BEq α] (hg : operation.isGoTo = false) :
    (operate observe ask operation memory c).Passes c := by
  cases operation with
  | goTo => simp [Operation.isGoTo] at hg
  | advance | advanceWithCurrent => exact passes_map _ passes_observedAdvance
  | advanceWhile | advanceUntil => exact passes_map _ passes_observedAdvanceWhile
  | advanceUntilEnd => exact passes_map _ (passes_of_ran ran_observedRun)
  | _ => exact passes_nothing rfl rfl

theorem operate_of_onlyReads [BEq α] (hr : operation.onlyReads = true) :
    (operate observe ask operation memory c).cursor = c ∧
      (operate observe ask operation memory c).notified = [] := by
  cases operation <;> first | exact ⟨rfl, rfl⟩ | simp [Operation.onlyReads] at hr

theorem elements_goTo {target : Int} (h : c.goTo target = .ok next) :
    next.elements = c.elements := by
  unfold goTo at h
  split at h
  · simp at h
  · obtain rfl := by simpa using h
    rw [elements_skip]
    simp [elements, ofList]

theorem operate_goTo [BEq α] (hg : operation.isGoTo = true) :
    (operate observe ask operation memory c).cursor.elements = c.elements ∧
      (operate observe ask operation memory c).notified = [] := by
  cases operation with
  | goTo target =>
    rw [operate]
    split
    · next h => exact ⟨elements_goTo h, rfl⟩
    · exact ⟨rfl, rfl⟩
  | _ => simp [Operation.isGoTo] at hg

/-! ### Stops -/

/-- A read outside the elements leaves everything as it was. -/
def Outcome.StopsStill (c : Cursor α) (o : Outcome α ε σ β) : Prop :=
  ∀ e, o.result = .error (.outOfRange e) → o.cursor = c ∧ o.notified = []

theorem eq_error_of_map {δ : Type v} {r : Except δ β} {f : β → γ} {e : δ} (h : r.map f = .error e) :
    r = .error e := by
  cases r with
  | error => exact congrArg Except.error (Except.error.inj h)
  | ok => simp [Except.map] at h

theorem stopsStill_map {o : Outcome α ε σ β} (f : β → γ) (h : o.StopsStill c) :
    (o.map f).StopsStill c :=
  fun e he => h e (eq_error_of_map he)

theorem result_of_ran {o : Outcome α ε σ (List α)} (h : Ran c o) (e : OutOfRange) :
    o.result ≠ .error (.outOfRange e) := by
  induction h with
  | ended => simp
  | unasked => simp
  | refused => simp
  | passed _ _ ih => exact fun he => ih (eq_error_of_map he)

theorem stopsStill_observedAdvance : (observedAdvance observe memory c).StopsStill c := by
  intro e he
  unfold observedAdvance at he
  split at he
  · simp at he
  · split at he <;> simp at he

theorem stopsStill_observedAdvanceWhile :
    (observedAdvanceWhile observe keep memory c).StopsStill c := by
  intro e he
  unfold observedAdvanceWhile at he ⊢
  split at he
  · exact ⟨rfl, rfl⟩
  · exact (result_of_ran ran_observedRun e (eq_error_of_map he)).elim

theorem stopsStill_operate [BEq α] : (operate observe ask operation memory c).StopsStill c := by
  cases operation with
  | advance | advanceWithCurrent => exact stopsStill_map _ stopsStill_observedAdvance
  | advanceWhile | advanceUntil => exact stopsStill_map _ stopsStill_observedAdvanceWhile
  | advanceUntilEnd =>
    exact stopsStill_map _ fun e he => (result_of_ran ran_observedRun e he).elim
  | goTo target =>
    intro e he
    rw [operate] at he ⊢
    split at he
    · simp at he
    · exact ⟨rfl, rfl⟩
  | _ => exact fun _ _ => ⟨rfl, rfl⟩

/-! ### Any number of operations -/

/-- What is remembered, and the cursor, after operations of which any may have been stopped. -/
def operateAll [BEq α] (observe : α → Consult σ ε Unit) (ask : π → α → Consult σ ε Bool) :
    List (Operation α π) → σ → Cursor α → σ × Cursor α
  | [], memory, c => (memory, c)
  | operation :: rest, memory, c =>
    let o := operate observe ask operation memory c
    operateAll observe ask rest o.memory o.cursor

theorem elements_operate [BEq α] :
    (operate observe ask operation memory c).cursor.elements = c.elements := by
  by_cases hg : operation.isGoTo = true
  · exact (operate_goTo hg).1
  · have hp := @passes_operate _ _ _ _ c memory observe ask operation _ (by simpa using hg)
    rw [hp.cursor_eq, elements_skip]

theorem elements_operateAll [BEq α] (operations : List (Operation α π)) :
    (operateAll observe ask operations memory c).2.elements = c.elements := by
  induction operations generalizing memory c with
  | nil => rfl
  | cons operation rest ih => exact ih.trans elements_operate

theorem atEnd_iff : c.atEnd = true ↔ c.position = c.elements.length := by
  rw [length_elements, length, atEnd, List.isEmpty_iff]
  constructor
  · intro h
    simp [h]
  · intro h
    exact List.eq_nil_of_length_eq_zero (by omega)

theorem slice_of_passes {o : Outcome α ε σ β} (h : o.Passes c) :
    c.position ≤ o.cursor.position ∧
      o.notified = (c.elements.drop c.position).take (o.cursor.position - c.position) := by
  have hl := h.starts.length_le
  have hp : o.cursor.position = c.position + o.notified.length := by
    rw [h.cursor_eq, position_skip, Nat.min_eq_left hl]
  refine ⟨by omega, ?_⟩
  rw [drop_position, hp, Nat.add_sub_cancel_left]
  exact List.prefix_iff_eq_take.mp h.starts

/-- After any operations, the next one keeps within the elements and tells the observer of what it
passes, answered or not. -/
theorem operations_notify_passed [BEq α] (elements : List α) (observe : α → Consult σ ε Unit)
    (ask : π → α → Consult σ ε Bool) (memory : σ) (earlier : List (Operation α π))
    (operation : Operation α π) :
    let before := operateAll observe ask earlier memory (ofList elements)
    let c := before.2
    let outcome := operate observe ask operation before.1 c
    let next := outcome.cursor
    (0 ≤ next.position ∧ next.position ≤ elements.length) ∧
    next.elements = elements ∧
    (next.atEnd = true ↔ next.position = elements.length) ∧
    (if operation.isGoTo then outcome.notified = []
      else c.position ≤ next.position ∧
        outcome.notified = (elements.drop c.position).take (next.position - c.position)) ∧
    (operation.onlyReads = true → next = c ∧ outcome.notified = []) ∧
    ∀ e, outcome.result = .error (.outOfRange e) → next = c ∧ outcome.notified = [] := by
  intro before c outcome next
  have hc : c.elements = elements := elements_operateAll earlier
  have hn : next.elements = elements := elements_operate.trans hc
  have hl := next.length_elements
  refine ⟨⟨Nat.zero_le _, ?_⟩, hn, ?_, ?_, operate_of_onlyReads, stopsStill_operate⟩
  · rw [← hn, hl, length]
    omega
  · rw [← hn]
    exact atEnd_iff
  · split
    · next hg => exact (operate_goTo hg).2
    · next hg =>
      rw [← hc]
      exact slice_of_passes (passes_operate (by simpa using hg))

end TokenStream.Cursor
