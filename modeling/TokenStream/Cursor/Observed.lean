import TokenStream.Cursor

/-!
Cursors under observation. Each time the cursor steps onto an element the observer is told of it,
after the move; the observer may refuse, and so may the predicate of a bulk advance. An operation
that is refused stops where it is. Observer and predicates may remember earlier calls.
-/
namespace TokenStream.Cursor

universe u v w z

/-- What stops an operation on an observed cursor. -/
inductive Stop (ε : Type v) where
  | outOfRange (error : OutOfRange)
  | refused (error : ε)

/-- A call of an observer or a predicate, with what they remember before and after it. -/
abbrev Consult (σ : Type w) (ε : Type v) (β : Type u) := σ → Except ε β × σ

/-- What an operation gives, where it leaves the cursor, whom the observer was told of, and what is
remembered then. -/
structure Outcome (α : Type u) (ε : Type v) (σ : Type w) (β : Type u) where
  result : Except (Stop ε) β
  cursor : Cursor α
  notified : List α
  memory : σ

/-- The operations of a cursor, with predicates of type `π`. -/
inductive Operation (α : Type u) (π : Type z) where
  | position | atEnd | length | describe
  | advance | advanceWithCurrent
  | goTo (target : Int)
  | current
  | peek (offset : Int)
  | advanceWhile (keep : π)
  | advanceUntil (stop : π)
  | advanceUntilEnd
  | indexOf (element : α) (start : Int)
  | getRange (start count : Int)
  | remaining

/-- What an operation answers when it is not stopped. -/
inductive Reply (α : Type u) where
  | done
  | flag (value : Bool)
  | number (value : Int)
  | text (value : String)
  | element (value : Option α)
  | elements (values : List α)

section
variable {α : Type u} {ε : Type v} {σ : Type w} (observe : α → Consult σ ε Unit)

/-- An operation that does not move. -/
def Outcome.stay (c : Cursor α) (memory : σ) (result : Except OutOfRange (Reply α)) :
    Outcome α ε σ (Reply α) :=
  ⟨result.mapError .outOfRange, c, [], memory⟩

/-- One step, if there is an element to step onto. -/
def observedAdvance (memory : σ) (c : Cursor α) : Outcome α ε σ (Option α) :=
  match c.advance? with
  | none => ⟨.ok none, c, [], memory⟩
  | some (x, next) =>
    match observe x memory with
    | (.ok (), memory) => ⟨.ok (some x), next, [x], memory⟩
    | (.error e, memory) => ⟨.error (.refused e), next, [x], memory⟩

/-- Steps as long as there is a next element and `keep` holds of it. -/
def observedRun (keep : α → Consult σ ε Bool) (memory : σ) (c : Cursor α) :
    Outcome α ε σ (List α) :=
  match h : c.advance? with
  | none => ⟨.ok [], c, [], memory⟩
  | some (x, next) =>
    match keep x memory with
    | (.error e, memory) => ⟨.error (.refused e), c, [], memory⟩
    | (.ok false, memory) => ⟨.ok [], c, [], memory⟩
    | (.ok true, memory) =>
      match observe x memory with
      | (.error e, memory) => ⟨.error (.refused e), next, [x], memory⟩
      | (.ok (), memory) =>
        have : next.ahead.length < c.ahead.length := by simp [ahead_of_advance? h]
        let rest := observedRun keep memory next
        ⟨rest.result.map (x :: ·), rest.cursor, x :: rest.notified, rest.memory⟩
termination_by c.ahead.length

def observedAdvanceWhile (keep : α → Consult σ ε Bool) (memory : σ) (c : Cursor α) :
    Outcome α ε σ (List α) :=
  match c.current with
  | .error e => ⟨.error (.outOfRange e), c, [], memory⟩
  | .ok x =>
    let run := observedRun observe keep memory c
    ⟨run.result.map (x :: ·), run.cursor, run.notified, run.memory⟩

def Outcome.map {β γ : Type u} (f : β → γ) (o : Outcome α ε σ β) : Outcome α ε σ γ :=
  ⟨o.result.map f, o.cursor, o.notified, o.memory⟩

/-- The opposite answer of a predicate. -/
def Consult.negate (answer : Consult σ ε Bool) : Consult σ ε Bool := fun memory =>
  ((answer memory).1.map not, (answer memory).2)

/-- An operation on a cursor. Its predicate, if it has one, is asked as `ask` says. -/
def operate [BEq α] {π : Type z} (ask : π → α → Consult σ ε Bool) (operation : Operation α π)
    (memory : σ) (c : Cursor α) : Outcome α ε σ (Reply α) :=
  match operation with
  | .position => .stay c memory (.ok (.number c.position))
  | .atEnd => .stay c memory (.ok (.flag c.atEnd))
  | .length => .stay c memory (.ok (.number c.length))
  | .describe => .stay c memory (.ok (.text c.describe))
  | .advance => (observedAdvance observe memory c).map fun x => .flag x.isSome
  | .advanceWithCurrent => (observedAdvance observe memory c).map .element
  | .goTo target =>
    match c.goTo target with
    | .ok moved => ⟨.ok .done, moved, [], memory⟩
    | .error e => ⟨.error (.outOfRange e), c, [], memory⟩
  | .current => .stay c memory (c.current.map fun x => .element (some x))
  | .peek offset => .stay c memory ((c.peek offset).map fun x => .element (some x))
  | .advanceWhile keep => (observedAdvanceWhile observe (ask keep) memory c).map .elements
  | .advanceUntil stop =>
    (observedAdvanceWhile observe (fun x => (ask stop x).negate) memory c).map .elements
  | .advanceUntilEnd =>
    (observedRun observe (fun _ memory => (.ok true, memory)) memory c).map .elements
  | .indexOf element start => .stay c memory (.ok (.number (c.indexOf element start)))
  | .getRange start count => .stay c memory ((c.getRange start count).map .elements)
  | .remaining => .stay c memory (.ok (.elements c.remaining))

end

/-! Observers and predicates that remember nothing. -/

section
variable {α : Type u} {ε : Type v}

/-- A call that remembers nothing. -/
def forgetful {β : Type u} (answer : Except ε β) : Consult PUnit.{1} ε β := fun memory =>
  (answer, memory)

abbrev Request (α : Type u) (ε : Type v) := Operation α (α → Except ε Bool)

def perform [BEq α] (observe : α → Except ε Unit) (request : Request α ε) (c : Cursor α) :
    Outcome α ε PUnit (Reply α) :=
  operate (fun x => forgetful (observe x))
    (fun (keep : α → Except ε Bool) x => forgetful (keep x)) request .unit c

end

end TokenStream.Cursor
