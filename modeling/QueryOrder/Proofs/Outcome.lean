/-
What a session shows of a sort.

A sort looks at the relations of the models, and writes the statements that custom orderings are
called with. Where the relations cannot be resolved it ends at that point.

* `Traced.exists_of_upTo`, `Traced.eq_none_of_upTo`: the first event that fails, if there is one;
* `Session.outcome`: what comes of a sort where the relations of the models may be
  impossible to resolve;
* `Session.outcome_of_resolved`: where they can be resolved, that is the sort by itself;
* `Session.outcome_eq_stopAt`, `Session.outcome_eq_error_iff`: without a custom ordering that is
  called it is what a step shows of the sort, and it fails for the relations or by itself;
* `Session.step_compile`, `Session.step_compile_of_resolved`: what a session answers when it is to
  compile a specification: over relations that can be resolved, the plan with its events.
-/
import QueryOrder.Proofs.Application

namespace QueryOrder

/-! ### The first event that fails -/

namespace Traced

variable {α β : Type} {fault? : Event → Option Failure}

/-- The first event that fails gives its failure. -/
lemma exists_of_upTo {events : List Event} {failure : Failure}
    (h : (upTo fault? events).2 = some failure) :
    ∃ event ∈ events, fault? event = some failure := by
  induction events with
  | nil => cases h
  | cons event rest ih =>
      rw [upTo] at h
      split at h
      · next failure' hfault =>
        obtain rfl : failure' = failure := Option.some.inj h
        exact ⟨event, List.mem_cons_self, hfault⟩
      · obtain ⟨event', hmem, hfault⟩ := ih h
        exact ⟨event', List.mem_cons_of_mem event hmem, hfault⟩

/-- Without a failure no event fails. -/
lemma eq_none_of_upTo {events : List Event} (h : (upTo fault? events).2 = none) :
    ∀ event ∈ events, fault? event = none := by
  induction events with
  | nil => exact fun event hmem => absurd hmem List.not_mem_nil
  | cons event rest ih =>
      rw [upTo] at h
      split at h
      · cases h
      · next hfault =>
        intro event' hmem
        rcases List.mem_cons.mp hmem with rfl | hmem
        · exact hfault
        · exact ih h event' hmem

/-- What is made of a result at the end is no part of what fails. -/
lemma stopAt_map (x : Traced α) (f : α → β) :
    (x >>= fun a => pure (f a)).stopAt fault? = x.stopAt fault? >>= fun a => pure (f a) := by
  have hevents : (x >>= fun a => pure (f a)).events = x.events := by
    rcases h : x.result with failure | a
    · rw [bind_of_error h]
    · rw [bind_of_ok h]
      exact List.append_nil _
  rw [stopAt, stopAt, hevents]
  split <;> rfl

/-- The failure of an outcome, if it is one. -/
def failure? (x : Traced α) : Option Failure :=
  match x.result with
  | .ok _ => none
  | .error failure => some failure

lemma failure?_eq_some_iff {x : Traced α} {failure : Failure} :
    x.failure? = some failure ↔ x.result = .error failure := by
  rw [failure?]
  rcases x.result with failure' | a <;> simp

/-- The events of two steps are those of the first, and those of the second if it is
reached. -/
lemma mem_events_bind {x : Traced α} {f : α → Traced β} {event : Event} :
    event ∈ (x >>= f).events ↔
      event ∈ x.events ∨ ∃ a, x.result = .ok a ∧ event ∈ (f a).events := by
  rcases h : x.result with failure | a
  · rw [bind_of_error h]
    simp
  · rw [bind_of_ok h]
    simp

end Traced

/-! ### Outcomes with relations to resolve -/

namespace Session

variable {α : Type}

/-- How an event fails by the relations: they are looked at and cannot be resolved. -/
def lookupFault? (session : Session) : Event → Option Failure
  | .lookup => session.mappingFault?
  | _ => none

/-- What comes of a sort: it ends where the relations are looked at, if they cannot be
resolved. -/
def outcome (session : Session) (done : Traced α) : Traced α :=
  done.stopAt session.lookupFault?

/-- Where the relations can be resolved, a sort comes to what it is by itself. -/
lemma outcome_of_resolved {session : Session} (h : session.mappingFault? = none)
    (done : Traced α) : session.outcome done = done := by
  refine Traced.stopAt_eq_self _ done fun event _ => ?_
  cases event with
  | lookup => exact h
  | warning message => rfl
  | call scope d s => rfl
  | debug channel message => rfl

/-- Without a custom ordering that is called, this is what a step shows of a sort. -/
lemma outcome_eq_stopAt {session : Session} {done : Traced α} (h : done.calls = []) :
    session.outcome done = done.stopAt session.eventFault? := by
  have hcalls : ∀ label d s, Event.call label d s ∉ done.events := by
    intro label d s hmem
    have hmade : (label, d, s) ∈ done.calls := List.mem_filterMap.mpr ⟨_, hmem, rfl⟩
    rw [h] at hmade
    cases hmade
  have hupTo : ∀ events : List Event, (∀ label d s, Event.call label d s ∉ events) →
      Traced.upTo session.lookupFault? events = Traced.upTo session.eventFault? events := by
    intro events
    induction events with
    | nil => exact fun _ => rfl
    | cons event rest ih =>
        intro hnone
        have hrest := ih fun label d s hmem => hnone label d s (List.mem_cons_of_mem event hmem)
        have hevent : session.lookupFault? event = session.eventFault? event := by
          cases event with
          | call label d s => exact absurd List.mem_cons_self (hnone label d s)
          | warning message => rfl
          | lookup => rfl
          | debug channel message => rfl
        rw [Traced.upTo, Traced.upTo, hrest, hevent]
  rw [outcome, Traced.stopAt, Traced.stopAt, hupTo done.events hcalls]

/-- A sort fails exactly if relations are looked at that cannot be resolved, or else if it
fails by itself. -/
lemma outcome_eq_error_iff {session : Session} {done : Traced α} {failure : Failure} :
    (session.outcome done).result = .error failure ↔
      session.mappingFault? = some failure ∧ .lookup ∈ done.events ∨
        (session.mappingFault? = none ∨ .lookup ∉ done.events) ∧ done.result = .error failure := by
  have hlookup : ∀ event failure', session.lookupFault? event = some failure' →
      event = .lookup ∧ session.mappingFault? = some failure' := by
    intro event failure' h
    cases event with
    | lookup => exact ⟨rfl, h⟩
    | warning message => cases h
    | call label d s => cases h
    | debug channel message => cases h
  rw [outcome, Traced.stopAt]
  split
  · next events failure' heq =>
    obtain ⟨event, hmem, hfault⟩ := Traced.exists_of_upTo (congrArg Prod.snd heq)
    obtain ⟨rfl, hmapping⟩ := hlookup event failure' hfault
    simp [hmapping, hmem]
  · next events heq =>
    have hnone := Traced.eq_none_of_upTo (congrArg Prod.snd heq)
    have hgood : session.mappingFault? = none ∨ .lookup ∉ done.events := by
      by_cases hmem : Event.lookup ∈ done.events
      · exact .inl (hnone .lookup hmem)
      · exact .inr hmem
    constructor
    · exact fun h => .inr ⟨hgood, h⟩
    · rintro (⟨hmapping, hmem⟩ | ⟨-, h⟩)
      · have hfault : session.mappingFault? = none := hnone .lookup hmem
        rw [hfault] at hmapping
        cases hmapping
      · exact h

/-! ### Steps -/

/-- A step that makes an answer of a result leaves the session as it is. -/
lemma keeping_map (session : Session) (x : Traced α) (f : α → Answer) :
    session.keeping (x >>= fun a => pure (f a, session)) =
      (x >>= fun a => pure (f a), session) := by
  rcases h : x.result with failure | a
  · rw [Traced.bind_of_error h, Traced.bind_of_error h]
    rfl
  · rw [Traced.bind_of_ok h, Traced.bind_of_ok h]
    rfl

/-- A step shows what is done up to the first event that fails. -/
lemma step_fst [Orderings] (session : Session) (s : Step) :
    (session.step s).1 = (session.perform s).1.stopAt session.eventFault? := by
  rw [step, Traced.stopAt]
  rcases Traced.upTo session.eventFault? (session.perform s).1.events with ⟨events, _ | failure⟩ <;>
    rfl

variable [Orderings]

/-- The outcome of a step that compiles. -/
lemma step_compile (session : Session) (choice : CompilerChoice) (raw : Value) :
    (session.step (.compile choice raw)).1 = Traced.stopAt session.eventFault? (do
      let c ← session.compiler choice
      return .plan (← session.models.compile c raw)) := by
  let planned : Traced Plan := do
    let c ← session.compiler choice
    session.models.compile c raw
  have hperform : session.perform (.compile choice raw) =
      session.keeping (planned >>= fun p => pure (.plan p, session)) :=
    congrArg session.keeping (Traced.bind_assoc _ _ _).symm
  have hplanned : (do
      let c ← session.compiler choice
      return .plan (← session.models.compile c raw) : Traced Answer) =
      planned >>= fun p => pure (.plan p) := (Traced.bind_assoc _ _ _).symm
  rw [step_fst, hperform, keeping_map, hplanned]

/-- Over relations that can be resolved, a session answers with the plan for the model, with all
that is heard on the way. -/
theorem step_compile_of_resolved {session : Session} (hresolved : session.mappingFault? = none)
    {choice : CompilerChoice} {c : Compiler} (hc : session.compiler choice = .ok c) {e : Entity}
    (he : session.models.entity c.model = .ok e) (raw : Value) :
    (session.step (.compile choice raw)).1 =
      Compile.compile e c.allowed c.gate raw >>= fun p => pure (.plan p) := by
  have hcompile := Registry.compile_of_entity he raw
  have hcalls : (session.models.compile c raw).calls = [] := by
    rw [hcompile]
    exact Compile.compile_calls
  rw [step_compile, hc, Traced.liftM_ok_bind, Traced.stopAt_map, ← outcome_eq_stopAt hcalls,
    outcome_of_resolved hresolved, hcompile]

end Session

end QueryOrder
