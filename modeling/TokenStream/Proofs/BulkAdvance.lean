import Mathlib.Data.List.TakeWhile
import TokenStream.Proofs.CursorReads

/-!
Bulk advances that nobody refuses. Such an advance takes the current element, which nobody is asked
about, and the longest run of elements after it that the predicate accepts; the one to the end takes
the same elements as single steps do.
-/
namespace TokenStream.Cursor

universe u v w

section
variable {α : Type u} {ε : Type v} {σ : Type w}

/-- An operation whose predicate, if it has one, is asked itself. -/
abbrev act [BEq α] (observe : α → Consult σ ε Unit)
    (operation : Operation α (α → Consult σ ε Bool)) (memory : σ) (c : Cursor α) :
    Outcome α ε σ (Reply α) :=
  operate observe id operation memory c

/-- The observer refuses nothing. -/
def Willing (observe : α → Consult σ ε Unit) : Prop :=
  ∀ x memory, (observe x memory).1 = .ok ()

/-- The predicate always answers, and as `q` does. -/
def Answers (keep : α → Consult σ ε Bool) (q : α → Bool) : Prop :=
  ∀ x memory, (keep x memory).1 = .ok (q x)

/-- A call that an advance makes. -/
inductive Contact (α : Type u) where
  /-- The predicate is asked about the element. -/
  | asked (x : α)
  /-- The observer is told of the element. -/
  | told (x : α)
deriving DecidableEq

/-- What is remembered after a call. -/
def Contact.remember (observe : α → Consult σ ε Unit) (keep : α → Consult σ ε Bool) (memory : σ) :
    Contact α → σ
  | asked x => (keep x memory).2
  | told x => (observe x memory).2

/-- The calls about elements that are taken: each is asked about, then told of. -/
def contacts (run : List α) : List (Contact α) := run.flatMap fun x => [.asked x, .told x]

/-- What is remembered after a run is taken. The element behind the run, if there is one, was asked
about too. -/
def rememberRun (observe : α → Consult σ ε Unit) (keep : α → Consult σ ε Bool) (memory : σ)
    (run : List α) (behind : Option α) : σ :=
  (contacts run ++ behind.toList.map Contact.asked).foldl (Contact.remember observe keep) memory

/-- The current element `x` and the run behind it are taken, and the cursor is left on the last of
them. -/
structure Takes (observe : α → Consult σ ε Unit) (keep : α → Consult σ ε Bool) (q : α → Bool)
    (memory : σ) (c : Cursor α) (x : α) (run : List α) (o : Outcome α ε σ (Reply α)) : Prop where
  result_eq : o.result = .ok (.elements (x :: run))
  position_eq : o.cursor.position = c.position + run.length
  elements_eq : o.cursor.elements = c.elements
  notified_eq : o.notified = run
  /-- It is the advance that nobody observes. -/
  unobserved : c.advanceWhile q = .ok (x :: run, o.cursor)
  range_eq : o.cursor.getRange (c.position - 1) (run.length + 1) = .ok (x :: run)
  whole : x :: run ++ o.cursor.remaining = x :: c.elements.drop c.position
  stops : o.cursor.atEnd = true ∨ ∃ y, o.cursor.peek 1 = .ok y ∧ q y = false
  memory_eq : o.memory = rememberRun observe keep memory run c.elements[c.position + run.length]?

/-- What an observer remembers that is told of elements. -/
def tell (observe : α → Consult σ ε Unit) (memory : σ) (run : List α) : σ :=
  run.foldl (fun memory x => (observe x memory).2) memory

/-- The loop that steps onto the next element and looks at it, as long as there is one: the elements
it collects, and what it leaves behind. -/
inductive StepsThrough [BEq α] (observe : α → Consult σ ε Unit) :
    σ → Cursor α → List α → σ → Cursor α → Prop
  | ended {memory : σ} {c : Cursor α} {o : Outcome α ε σ (Reply α)}
    (ha : act observe .advance memory c = o) (hr : o.result = .ok (.flag false)) :
    StepsThrough observe memory c [] o.memory o.cursor
  | stepped {memory last : σ} {c d : Cursor α} {o o' : Outcome α ε σ (Reply α)} {x : α}
    {xs : List α} (ha : act observe .advance memory c = o) (hr : o.result = .ok (.flag true))
    (hc : act observe .current o.memory o.cursor = o') (hx : o'.result = .ok (.element (some x)))
    (hs : StepsThrough observe o'.memory o'.cursor xs last d) :
    StepsThrough observe memory c (x :: xs) last d

end

variable {α : Type u} {ε : Type v} {σ : Type w} {observe : α → Consult σ ε Unit}
  {keep : α → Consult σ ε Bool} {q : α → Bool} {memory : σ} {c next : Cursor α} {x : α}
  {before run : List α}

theorem contacts_cons : contacts (x :: run) = .asked x :: .told x :: contacts run := rfl

/-- A run that nobody refuses takes all elements up to the first that is not accepted. -/
theorem observedRun_eq (ho : Willing observe) (hk : Answers keep q) (memory : σ) (c : Cursor α) :
    observedRun observe keep memory c =
      let run := c.ahead.takeWhile q
      ⟨.ok run, c.skip run.length, run,
        rememberRun observe keep memory run c.ahead[run.length]?⟩ := by
  fun_induction observedRun observe keep memory c with
  | case1 memory c h =>
    simp [advance?_eq_none_iff.mp h, rememberRun, contacts]
  | case2 memory c x next h e memory' hkeep =>
    have := hk x memory
    simp [hkeep] at this
  | case3 memory c x next h memory' hkeep =>
    have hq : false = q x := by simpa [hkeep] using hk x memory
    simp [ahead_of_advance? h, ← hq, rememberRun, contacts, Contact.remember, hkeep]
  | case4 memory c x next h memory' hkeep e memory'' hobs =>
    have := ho x memory'
    simp [hobs] at this
  | case5 memory c x next h memory' hkeep memory'' hobs hlt rest ih =>
    have hq : true = q x := by simpa [hkeep] using hk x memory
    have hrun : c.ahead.takeWhile q = x :: next.ahead.takeWhile q := by
      simp [ahead_of_advance? h, ← hq]
    have hbehind : c.ahead[(next.ahead.takeWhile q).length + 1]? =
        next.ahead[(next.ahead.takeWhile q).length]? := by
      rw [ahead_of_advance? h, List.getElem?_cons_succ]
    simp only [rest, ih, hrun, List.length_cons, hbehind, skip_of_advance? h, rememberRun,
      contacts_cons, List.cons_append, List.foldl_cons, Contact.remember, hkeep, hobs]
    rfl

/-! ### Advances with a predicate -/

theorem exists_behind (hp : c.position ≠ 0) : ∃ x before, c.behind = x :: before := by
  apply List.exists_cons_of_ne_nil
  rw [c.position_eq] at hp
  exact List.length_pos_iff.mp (Nat.pos_of_ne_zero hp)

theorem getElem?_elements_of_behind (hb : c.behind = x :: before) :
    c.elements[c.position - 1]? = some x := by
  simp [elements, c.position_eq, hb]

/-- The slice from the current element on. -/
theorem getRange_of_behind (hb : c.behind = x :: before) (hr : run <+: c.ahead) :
    c.getRange (c.position - 1) (run.length + 1) = .ok (x :: run) := by
  have hp : c.position = before.length + 1 := by rw [c.position_eq, hb, List.length_cons]
  have hl := hr.length_le
  have hd : c.elements.drop before.length = x :: c.ahead := by
    simp [elements, hb]
  refine getRange_eq_ok_iff.mpr ⟨before.length, run.length + 1, by omega, by omega, ?_, ?_⟩
  · rw [length_elements, length]
    omega
  · rw [hd, List.take_succ_cons, ← List.prefix_iff_eq_take.mp hr]

/-- Behind a run the predicate refuses the next element, if there is one. -/
theorem stops_skip_takeWhile (q : α → Bool) :
    let d := c.skip (c.ahead.takeWhile q).length
    d.atEnd = true ∨ ∃ y, d.peek 1 = .ok y ∧ q y = false := by
  intro d
  have hw : c.ahead.takeWhile q ++ d.ahead = c.ahead.takeWhile q ++ c.ahead.dropWhile q := by
    rw [List.takeWhile_append_dropWhile]
    exact List.prefix_iff_eq_append.mp (c.ahead.takeWhile_prefix q)
  have hq := List.head?_dropWhile_not q c.ahead
  rw [← List.append_cancel_left hw] at hq
  cases ha : d.ahead with
  | nil => exact .inl (by simp [atEnd, ha])
  | cons y rest =>
    refine .inr ⟨y, by simp [peek, peek?, ha], ?_⟩
    simpa [ha] using hq

section
variable [BEq α]

theorem act_advanceWhile_of_behind (ho : Willing observe) (hk : Answers keep q)
    (hb : c.behind = x :: before) :
    act observe (.advanceWhile keep) memory c =
      let run := c.ahead.takeWhile q
      ⟨.ok (.elements (x :: run)), c.skip run.length, run,
        rememberRun observe keep memory run c.ahead[run.length]?⟩ := by
  rw [act, operate, observedAdvanceWhile, current_of_behind hb, id]
  simp only [observedRun_eq ho hk memory c]
  rfl

theorem act_advanceWhile_of_start (hp : c.position = 0) :
    (act observe (.advanceWhile keep) memory c).result =
      .error (.outOfRange ⟨.current, -1, c.length⟩) := by
  have hb : c.behind = [] := List.eq_nil_of_length_eq_zero (c.position_eq ▸ hp)
  simp [act, operate, observedAdvanceWhile, current, hb, hp, Outcome.map, Except.map]

theorem takes_advanceWhile (ho : Willing observe) (hk : Answers keep q)
    (hb : c.behind = x :: before) :
    Takes observe keep q memory c x ((c.elements.drop c.position).takeWhile q)
      (act observe (.advanceWhile keep) memory c) := by
  rw [drop_position, act_advanceWhile_of_behind ho hk hb]
  have hr := c.ahead.takeWhile_prefix q
  have hle := hr.length_le
  exact {
    result_eq := rfl
    position_eq := by simp [hle]
    elements_eq := elements_skip
    notified_eq := rfl
    unobserved := advanceWhile_of_behind hb
    range_eq := (getRange_congr elements_skip).trans (getRange_of_behind hb hr)
    whole := by
      rw [drop_position]
      exact congrArg (x :: ·) (List.prefix_iff_eq_append.mp hr)
    stops := stops_skip_takeWhile q
    memory_eq := by rw [← List.getElem?_drop, drop_position] }

theorem act_advanceUntil {stop : α → Consult σ ε Bool}
    (hs : ∀ x memory, (stop x memory).1 = .ok (!q x) ∧ (stop x memory).2 = (keep x memory).2)
    (hk : Answers keep q) :
    act observe (.advanceUntil stop) memory c = act observe (.advanceWhile keep) memory c := by
  have hn : (fun x => (stop x).negate) = keep := by
    funext x memory
    refine Prod.ext ?_ (hs x memory).2
    change (stop x memory).1.map not = (keep x memory).1
    rw [(hs x memory).1, hk x memory]
    exact congrArg Except.ok (Bool.not_not _)
  rw [← hn]
  rfl

/-! ### Advances to the end, and single steps -/

theorem act_advanceUntilEnd (ho : Willing observe) :
    act observe .advanceUntilEnd memory c =
      ⟨.ok (.elements c.ahead), c.skip c.ahead.length, c.ahead, tell observe memory c.ahead⟩ := by
  have hk : Answers (fun _ memory => (.ok true, memory) : α → Consult σ ε Bool) fun _ => true :=
    fun _ _ => rfl
  have ht : c.ahead.takeWhile (fun _ => true) = c.ahead :=
    List.takeWhile_eq_self_iff.mpr fun _ _ => rfl
  -- Nothing is remembered of asking, so only what the observer is told is left.
  have hm : ∀ (run : List α) (memory : σ), (contacts run).foldl
      (Contact.remember observe fun _ memory => (.ok true, memory)) memory =
        tell observe memory run := by
    intro run
    induction run with
    | nil => exact fun _ => rfl
    | cons x run ih => exact fun memory => ih _
  rw [act, operate, observedRun_eq ho hk memory c]
  simp [Outcome.map, rememberRun, hm, ht, Except.map]

theorem act_advance_of_none (h : c.advance? = none) :
    act observe .advance memory c = ⟨.ok (.flag false), c, [], memory⟩ := by
  rw [act, operate, observedAdvance, h]
  rfl

theorem act_advance_of_some (ho : Willing observe) (h : c.advance? = some (x, next)) :
    act observe .advance memory c = ⟨.ok (.flag true), next, [x], (observe x memory).2⟩ := by
  have hx : observe x memory = (.ok (), (observe x memory).2) := Prod.ext (ho x memory) rfl
  rw [act, operate, observedAdvance, h]
  dsimp only
  rw [hx]
  rfl

theorem act_current_of_advance? (h : c.advance? = some (x, next)) :
    act observe .current memory next = ⟨.ok (.element (some x)), next, [], memory⟩ := by
  rw [act, operate, current_of_advance? h]
  rfl

theorem stepsThrough_ahead (ho : Willing observe) :
    StepsThrough observe memory c c.ahead (tell observe memory c.ahead)
      (c.skip c.ahead.length) := by
  induction h : c.ahead generalizing c memory with
  | nil =>
    have ha := @act_advance_of_none _ _ _ observe memory c _ (advance?_eq_none_iff.mpr h)
    rw [List.length_nil, skip_zero]
    exact .ended ha rfl
  | cons x rest ih =>
    have hn := advance?_of_ahead h
    have hs := @ih (observe x memory).2 (c.skip 1) (by rw [ahead_skip, h]; rfl)
    rw [skip_skip, Nat.add_comm] at hs
    exact .stepped (act_advance_of_some ho hn) rfl (act_current_of_advance? hn) rfl hs

/-- The loop goes one way only, whatever the observer does. -/
theorem stepsThrough_unique {xs xs' : List α} {last last' : σ} {d d' : Cursor α}
    (h : StepsThrough observe memory c xs last d)
    (h' : StepsThrough observe memory c xs' last' d') : xs = xs' ∧ last = last' ∧ d = d' := by
  induction h generalizing xs' last' d' with
  | ended ha hr =>
    subst ha
    cases h' with
    | ended ha' =>
      subst ha'
      exact ⟨rfl, rfl, rfl⟩
    | stepped ha' hr' =>
      subst ha'
      simp [hr] at hr'
  | stepped ha hr hc hx _ ih =>
    subst ha hc
    cases h' with
    | ended ha' hr' =>
      subst ha'
      simp [hr] at hr'
    | stepped ha' _ hc' hx' hs' =>
      subst ha' hc'
      obtain rfl : _ = _ := by simpa [hx] using hx'
      obtain ⟨rfl, rfl, rfl⟩ := ih hs'
      exact ⟨rfl, rfl, rfl⟩

/-- A bulk advance takes the current element, untested, and the longest run of accepted elements
behind it; it fails only where there is no current element. To advance until a predicate holds is to
advance while it does not, and to advance to the end is to take every step. -/
theorem bulk_advances_exact (ho : Willing observe) (hk : Answers keep q) (memory : σ)
    (c : Cursor α) :
    let o := act observe (.advanceWhile keep) memory c
    let e := act observe .advanceUntilEnd memory c
    ((∃ error, o.result = .error (.outOfRange error)) ↔ c.position = 0) ∧
    (c.position ≠ 0 → ∃ x, c.elements[c.position - 1]? = some x ∧
      Takes observe keep q memory c x ((c.elements.drop c.position).takeWhile q) o) ∧
    (∀ stop : α → Consult σ ε Bool,
      (∀ x memory, (stop x memory).1 = .ok (!q x) ∧ (stop x memory).2 = (keep x memory).2) →
        act observe (.advanceUntil stop) memory c = o) ∧
    e.result = .ok (.elements c.remaining) ∧ e.cursor.position = c.elements.length ∧
    ∀ xs last d, StepsThrough observe memory c xs last d ↔
      xs = c.remaining ∧ last = e.memory ∧ d = e.cursor := by
  intro o e
  have he : e = _ := act_advanceUntilEnd ho
  have htakes : c.position ≠ 0 → ∃ x, c.elements[c.position - 1]? = some x ∧
      Takes observe keep q memory c x ((c.elements.drop c.position).takeWhile q) o := by
    intro hp
    obtain ⟨x, before, hb⟩ := exists_behind hp
    exact ⟨x, getElem?_elements_of_behind hb, takes_advanceWhile ho hk hb⟩
  refine ⟨⟨?_, ?_⟩, htakes, fun stop hs => act_advanceUntil hs hk, ?_, ?_, ?_⟩
  · rintro ⟨error, herror⟩
    by_contra hp
    obtain ⟨x, -, ht⟩ := htakes hp
    simp [ht.result_eq] at herror
  · intro hp
    exact ⟨_, act_advanceWhile_of_start hp⟩
  · rw [he]
    rfl
  · rw [he, length_elements, length]
    simp
  · intro xs last d
    rw [he]
    constructor
    · intro h
      exact stepsThrough_unique h (stepsThrough_ahead ho)
    · rintro ⟨rfl, rfl, rfl⟩
      exact stepsThrough_ahead ho

end

/-- An observer that records the calls. -/
def recorder {α : Type u} {ε : Type v} (x : α) : Consult (List (Contact α)) ε Unit :=
  fun calls => (.ok (), calls ++ [.told x])

/-- A predicate that records the calls. -/
def recorded {α : Type u} {ε : Type v} (q : α → Bool) (x : α) : Consult (List (Contact α)) ε Bool :=
  fun calls => (.ok (q x), calls ++ [.asked x])

theorem bulk_advances_exact_of_record :
    let c := (ofList [7, 1, 2, 5, 1]).skip 1
    let q : Nat → Bool := (· < 3)
    let o := act (recorder : Nat → Consult (List (Contact Nat)) Empty Unit)
      (.advanceWhile (recorded q)) [] c
    Willing (recorder : Nat → Consult (List (Contact Nat)) Empty Unit) ∧
    Answers (recorded q : Nat → Consult (List (Contact Nat)) Empty Bool) q ∧
    o.result = .ok (.elements [7, 1, 2]) ∧
    o.memory = [.asked 1, .told 1, .asked 2, .told 2, .asked 5] := by
  intro c q o
  have ho : Willing (recorder : Nat → Consult (List (Contact Nat)) Empty Unit) := fun _ _ => rfl
  have hk : Answers (recorded q : Nat → Consult (List (Contact Nat)) Empty Bool) q := fun _ _ => rfl
  obtain ⟨-, ht, -⟩ := bulk_advances_exact ho hk [] c
  obtain ⟨x, hx, ht⟩ := ht (by decide)
  have h7 : c.elements[c.position - 1]? = some 7 := by decide
  obtain rfl := Option.some.inj (h7.symm.trans hx)
  exact ⟨ho, hk, ht.result_eq, ht.memory_eq⟩

end TokenStream.Cursor
