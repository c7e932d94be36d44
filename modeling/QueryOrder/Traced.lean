/-
Outcomes together with what can be observed on the way.

A sort warns, writes debug records and calls custom orderings. All of this is
part of its outcome as a value, in the order in which it happens.

* `Event`: what can be observed;
* `Traced`: an outcome and the events before it;
* `Traced.stopAt`: an outcome that ends with the first event that fails;
* `Traced.warnings`, `Traced.calls`: the events of one kind;
* `bind_of_ok`, `bind_of_error`: what follows a failure does not happen.
-/
import QueryOrder.Scope.Run

namespace QueryOrder

/-- The part of the library that writes a debug record. -/
inductive Channel where
  | compiler
  | scopes
  | binding
deriving DecidableEq, Repr

/-- What can be observed of a sort besides its outcome. -/
inductive Event where
  /-- A warning that its receiver took. -/
  | warning (message : String)
  /-- A custom ordering is called with a statement. -/
  | call (scope : Scope) (direction : Direction) (statement : Statement)
  /-- The relations of a model are looked at. -/
  | lookup
  | debug (channel : Channel) (message : String)

/-- An outcome and the events before it. -/
structure Traced (α : Type) where
  events : List Event
  result : Except Failure α

namespace Traced

variable {α β : Type}

/-! ### Sequencing -/

/-- One step after the other. What follows a failure does not happen. -/
def andThen (x : Traced α) (f : α → Traced β) : Traced β :=
  match x.result with
  | .ok a => ⟨x.events ++ (f a).events, (f a).result⟩
  | .error failure => ⟨x.events, .error failure⟩

instance : Monad Traced where
  pure a := ⟨[], .ok a⟩
  bind := andThen

/-- An outcome without events. -/
def ofExcept (result : Except Failure α) : Traced α := ⟨[], result⟩

instance : MonadLift (Except Failure) Traced where
  monadLift := ofExcept

/-- One event. -/
def emit (event : Event) : Traced Unit := ⟨[event], .ok ()⟩

/-- A failure. -/
def fail (failure : Failure) : Traced α := ⟨[], .error failure⟩

@[simp] theorem result_pure (a : α) : (pure a : Traced α).result = .ok a := rfl

@[simp] theorem events_pure (a : α) : (pure a : Traced α).events = [] := rfl

/-- After a success the next step happens. -/
theorem bind_of_ok {x : Traced α} {a : α} (h : x.result = .ok a) (f : α → Traced β) :
    x >>= f = ⟨x.events ++ (f a).events, (f a).result⟩ := by
  show andThen x f = _
  simp [andThen, h]

/-- After a failure nothing happens. -/
theorem bind_of_error {x : Traced α} {failure : Failure} (h : x.result = .error failure)
    (f : α → Traced β) : x >>= f = ⟨x.events, .error failure⟩ := by
  show andThen x f = _
  simp [andThen, h]

/-! ### Events that fail -/

/-- The events before the first one that fails, and its failure. -/
def upTo (fault? : Event → Option Failure) : List Event → List Event × Option Failure
  | [] => ([], none)
  | event :: rest =>
    match fault? event with
    | some failure => ([], some failure)
    | none => (event :: (upTo fault? rest).1, (upTo fault? rest).2)

/-- An outcome that ends with the first event that fails, if one does. -/
def stopAt (fault? : Event → Option Failure) (x : Traced α) : Traced α :=
  match upTo fault? x.events with
  | (events, some failure) => ⟨events, .error failure⟩
  | (_, none) => x

/-- When no event fails, an outcome is left as it is. -/
theorem stopAt_eq_self (fault? : Event → Option Failure) (x : Traced α)
    (h : ∀ event ∈ x.events, fault? event = none) : x.stopAt fault? = x := by
  have none_of (events : List Event) (h : ∀ event ∈ events, fault? event = none) :
      (upTo fault? events).2 = none := by
    induction events with
    | nil => rfl
    | cons event rest ih =>
      simp [upTo, h event (by simp), ih fun e he => h e (by simp [he])]
  unfold stopAt
  split
  · next heq => have := none_of x.events h; simp [heq] at this
  · rfl

/-! ### Events of one kind -/

/-- The warnings that were taken, in order. -/
def warnings (x : Traced α) : List String :=
  x.events.filterMap fun
    | .warning message => some message
    | _ => none

/-- The calls of custom orderings, in order. -/
def calls (x : Traced α) : List (Scope × Direction × Statement) :=
  x.events.filterMap fun
    | .call scope direction statement => some (scope, direction, statement)
    | _ => none

/-- The debug records, in order. -/
def debugs (x : Traced α) : List (Channel × String) :=
  x.events.filterMap fun
    | .debug channel message => some (channel, message)
    | _ => none

end Traced

end QueryOrder
