/-
What a receiver of warnings can do to a sort.

A sort does not read from its receiver. What comes of it is what comes of a recorded sort, of
which the receiver may lose the warnings, or which it stops at the first of them.

* `Traced.mute`: an outcome without its warnings, which is the outcome itself if there are none
  (`Traced.warnings_eq_nil_iff`, `Traced.mute_of_quiet`);
* `Traced.stopAt_bind`, `Traced.stopAt_comm`: what stops the first of two steps stops both,
  and two causes stop an outcome in either order;
* `Sink.hear`: what a receiver leaves of a recorded outcome, a step at a time
  (`Sink.hear_bind`);
* `compile_hear`, `apply_hear`: a sort is the recorded one as its receiver hears it;
* `Sink.mute_hear`, `Sink.hear_of_quiet`, `Sink.hear_of_warned`: what that comes to for the
  kinds of receivers;
* `Session.sink_irrelevant`: two receivers that do not stop the sort have the same outcome of
  it, and one that does has another outcome exactly if there is a warning.
-/
import QueryOrder.Proofs.Lenience
import QueryOrder.Scope.Act

namespace QueryOrder

/-- Whether an event is a warning. -/
def Event.isWarning : Event → Bool
  | .warning _ => true
  | .call _ _ _ => false
  | .lookup => false
  | .debug _ _ => false

namespace Traced

variable {α β : Type} {fault? fault'? : Event → Option Failure}

/-- The first event of an outcome is a step before the rest. -/
lemma cons_eq_bind (event : Event) (rest : List Event) (result : Except Failure α) :
    (⟨event :: rest, result⟩ : Traced α) = emit event >>= fun _ => ⟨rest, result⟩ := rfl

/-! ### Outcomes without warnings -/

/-- An outcome without its warnings. -/
def mute (x : Traced α) : Traced α :=
  ⟨x.events.filter fun event => !event.isWarning, x.result⟩

/-- Nothing is warned of exactly if no event is a warning. -/
lemma warnings_eq_nil_iff {x : Traced α} :
    x.warnings = [] ↔ ∀ event ∈ x.events, event.isWarning = false := by
  rw [warnings, List.filterMap_eq_nil_iff]
  refine forall_congr' fun event => forall_congr' fun _ => ?_
  cases event <;> simp [Event.isWarning]

/-- Without warnings nothing is left out. -/
lemma mute_of_quiet {x : Traced α} (h : x.warnings = []) : x.mute = x :=
  without_of_none (warnings_eq_nil_iff.mp h)

/-- The warnings of each of two steps can be left out on their own. -/
lemma mute_bind (x : Traced α) (f : α → Traced β) :
    (x >>= f).mute = x.mute >>= fun a => (f a).mute :=
  without_bind Event.isWarning x f

/-! ### What stops an outcome -/

/-- An event on its own stops where it fails. -/
lemma stopAt_emit (event : Event) :
    (emit event).stopAt fault? =
      match fault? event with
      | some failure => fail failure
      | none => emit event := by
  rcases h : fault? event with _ | failure <;> simp [stopAt, upTo, emit, fail, h]

/-- Nothing before an event that does not fail is lost. -/
lemma upTo_append (events events' : List Event) :
    upTo fault? (events ++ events') =
      match (upTo fault? events).2 with
      | some failure => ((upTo fault? events).1, some failure)
      | none => (events ++ (upTo fault? events').1, (upTo fault? events').2) := by
  induction events with
  | nil => rfl
  | cons event rest ih =>
      rcases hfault : fault? event with _ | failure
      · simp only [List.cons_append, upTo, hfault, ih]
        split <;> rfl
      · simp only [List.cons_append, upTo, hfault]

/-- What stops the first of two steps stops both. -/
lemma stopAt_bind (x : Traced α) (f : α → Traced β) :
    (x >>= f).stopAt fault? = x.stopAt fault? >>= fun a => (f a).stopAt fault? := by
  rcases hup : upTo fault? x.events with ⟨events, _ | failure⟩
  · have hfirst : x.stopAt fault? = x := by simp only [stopAt, hup]
    rw [hfirst]
    rcases h : x.result with failure | a
    · rw [bind_of_error h, bind_of_error h]
      simp only [stopAt, hup]
    · rw [bind_of_ok h, bind_of_ok h]
      rcases hup' : upTo fault? (f a).events with ⟨events', _ | failure'⟩
      · simp only [stopAt, upTo_append, hup, hup']
      · simp only [stopAt, upTo_append, hup, hup']
  · have hfirst : x.stopAt fault? = ⟨events, .error failure⟩ := by simp only [stopAt, hup]
    rw [hfirst, bind_of_error (x := ⟨events, .error failure⟩) rfl]
    rcases h : x.result with failure' | a
    · rw [bind_of_error h]
      simp only [stopAt, hup]
    · rw [bind_of_ok h]
      simp only [stopAt, upTo_append, hup]

/-- Events that stop nothing can be left out before or after. -/
lemma stopAt_without {kind : Event → Bool}
    (hfault : ∀ event, kind event = true → fault? event = none) (x : Traced α) :
    (x.without kind).stopAt fault? = (x.stopAt fault?).without kind := by
  obtain ⟨events, result⟩ := x
  induction events with
  | nil => rfl
  | cons event rest ih =>
      have hevent : ((emit event).without kind).stopAt fault? =
          ((emit event).stopAt fault?).without kind := by
        by_cases hkind : kind event = true
        · rw [stopAt_emit, hfault event hkind]
          simp [without, emit, hkind, stopAt, upTo]
        · have hkept : (emit event).without kind = emit event := by simp [without, emit, hkind]
          rw [hkept, stopAt_emit]
          rcases fault? event with _ | failure
          · exact hkept.symm
          · rfl
      rw [cons_eq_bind, without_bind, stopAt_bind, stopAt_bind, without_bind, hevent]
      simp only [ih]

/-- Warnings that stop nothing can be left out before or after. -/
lemma stopAt_mute (hfault : ∀ event, event.isWarning = true → fault? event = none)
    (x : Traced α) : x.mute.stopAt fault? = (x.stopAt fault?).mute :=
  stopAt_without hfault x

/-- Two causes that never meet stop an outcome at the first event that either of them
fails, in whichever order they are asked. -/
lemma stopAt_comm (hfault : ∀ event, fault? event = none ∨ fault'? event = none)
    (x : Traced α) : (x.stopAt fault?).stopAt fault'? = (x.stopAt fault'?).stopAt fault? := by
  obtain ⟨events, result⟩ := x
  induction events with
  | nil => rfl
  | cons event rest ih =>
      have hevent : ((emit event).stopAt fault?).stopAt fault'? =
          ((emit event).stopAt fault'?).stopAt fault? := by
        rw [stopAt_emit, stopAt_emit]
        rcases hfault event with hnone | hnone
        · rcases h : fault'? event with _ | failure
          · simp only [hnone, stopAt_emit, h]
          · simp only [hnone, stopAt_emit, h]
            rfl
        · rcases h : fault? event with _ | failure
          · simp only [hnone, stopAt_emit, h]
          · simp only [hnone, stopAt_emit, h]
            rfl
      rw [cons_eq_bind, stopAt_bind, stopAt_bind, stopAt_bind, stopAt_bind, hevent]
      simp only [ih]

/-- Of an outcome that is stopped the first events are left. -/
lemma events_of_stopAt (x : Traced α) : (x.stopAt fault?).events <+: x.events := by
  have hprefix : ∀ events : List Event, (upTo fault? events).1 <+: events := by
    intro events
    induction events with
    | nil => exact List.prefix_refl []
    | cons event rest ih =>
        rw [upTo]
        split
        · exact List.nil_prefix
        · exact List.cons_prefix_cons.mpr ⟨rfl, ih⟩
  have hstopped := hprefix x.events
  rw [stopAt]
  split
  · next events failure hup =>
    rw [hup] at hstopped
    exact hstopped
  · exact List.prefix_refl x.events

/-- To stop an outcome adds no warning. -/
lemma warnings_of_stopAt {x : Traced α} (h : (x.stopAt fault?).warnings ≠ []) :
    x.warnings ≠ [] := by
  intro hnil
  have hsub : (x.stopAt fault?).warnings.Sublist x.warnings :=
    (events_of_stopAt x).sublist.filterMap _
  rw [hnil] at hsub
  exact h (List.eq_nil_of_sublist_nil hsub)

/-- A second step without warnings adds none. -/
lemma warnings_bind_of_quiet {x : Traced α} {f : α → Traced β}
    (h : ∀ a, (f a).warnings = []) : (x >>= f).warnings = x.warnings := by
  rcases hx : x.result with failure | a
  · rw [bind_of_error hx]
    rfl
  · have happend : (x >>= f).warnings = x.warnings ++ (f a).warnings := by
      rw [bind_of_ok hx]
      exact List.filterMap_append
    rw [happend, h, List.append_nil]

end Traced

/-! ### What a receiver leaves -/

namespace Sink

open Traced (emit fail)

variable {α β : Type}

/-- What stops the run is a warning, if the receiver of it does. -/
def stop? (event : Event) : Option Failure :=
  if event.isWarning then some (.interrupted "log sink is down") else none

/-- What a receiver leaves of a recorded outcome: the warnings are kept, lost, or the first of
them stops it. -/
def hear (sink : Sink) (x : Traced α) : Traced α :=
  match sink with
  | recording => x
  | interrupting => x.stopAt stop?
  | absent | broken | unable => x.mute

/-- A receiver hears one step after the other. -/
lemma hear_bind (sink : Sink) (x : Traced α) (f : α → Traced β) :
    sink.hear (x >>= f) = sink.hear x >>= fun a => sink.hear (f a) := by
  cases sink with
  | recording => rfl
  | interrupting => exact Traced.stopAt_bind x f
  | absent => exact Traced.mute_bind x f
  | broken => exact Traced.mute_bind x f
  | unable => exact Traced.mute_bind x f

/-- A warning is taken as its receiver hears it. -/
lemma hear_warn (sink : Sink) (message : String) :
    sink.hear (recording.warn message) = sink.warn message := by
  cases sink <;> rfl

/-- Without a warning there is nothing to hear. -/
lemma hear_of_quiet (sink : Sink) {x : Traced α} (h : x.warnings = []) : sink.hear x = x := by
  cases sink with
  | recording => rfl
  | interrupting =>
      refine Traced.stopAt_eq_self stop? x fun event hmem => ?_
      rw [stop?, Traced.warnings_eq_nil_iff.mp h event hmem]
      rfl
  | absent => exact Traced.mute_of_quiet h
  | broken => exact Traced.mute_of_quiet h
  | unable => exact Traced.mute_of_quiet h

/-- A step without events is heard as it is. -/
lemma hear_lift (sink : Sink) (result : Except Failure α) :
    sink.hear (liftM result : Traced α) = liftM result :=
  sink.hear_of_quiet rfl

lemma hear_pure (sink : Sink) (a : α) : sink.hear (pure a) = pure a :=
  sink.hear_of_quiet rfl

/-- An event that is no warning is heard as it is. -/
lemma hear_lookup (sink : Sink) : sink.hear (emit .lookup) = emit .lookup :=
  sink.hear_of_quiet rfl

lemma hear_debug (sink : Sink) (channel : Channel) (message : String) :
    sink.hear (emit (.debug channel message)) = emit (.debug channel message) :=
  sink.hear_of_quiet rfl

/-- A receiver that does not stop the run loses warnings at most. -/
lemma mute_hear {sink : Sink} (h : sink ≠ interrupting) (x : Traced α) :
    (sink.hear x).mute = x.mute := by
  have hidem : x.mute.mute = x.mute := by simp [Traced.mute]
  cases sink with
  | recording => rfl
  | interrupting => exact absurd rfl h
  | absent => exact hidem
  | broken => exact hidem
  | unable => exact hidem

/-- A warning stops the run if its receiver does. -/
lemma hear_of_warned {x : Traced α} (h : x.warnings ≠ []) :
    (interrupting.hear x).result = .error (.interrupted "log sink is down") := by
  have hwarned : ∃ event ∈ x.events, event.isWarning = true := by
    by_contra hnone
    exact h (Traced.warnings_eq_nil_iff.mpr fun event hmem => by
      simpa using fun hwarning => hnone ⟨event, hmem, hwarning⟩)
  obtain ⟨event, hmem, hwarning⟩ := hwarned
  rw [hear, Traced.stopAt]
  split
  · next events failure heq =>
    obtain ⟨event', -, hfault⟩ := Traced.exists_of_upTo (congrArg Prod.snd heq)
    rw [stop?] at hfault
    split at hfault
    · rw [Option.some.inj hfault]
    · cases hfault
  · next events heq =>
    have hnone := Traced.eq_none_of_upTo (congrArg Prod.snd heq) event hmem
    rw [stop?, if_pos hwarning] at hnone
    cases hnone

end Sink

/-! ### Sorts -/

namespace Gate

variable {policy : Policy}

/-- A violation is reported as the receiver of warnings hears it. -/
lemma violation_hear (policy : Policy) (sink : Sink) (cause : Violation) (template field : String)
    (critical : Bool) (context : List (String × Value)) :
    violation ⟨policy, sink⟩ cause template field critical context =
      sink.hear (violation ⟨policy, .recording⟩ cause template field critical context) := by
  rw [violation, violation, enforce, enforce]
  cases policy with
  | strict =>
      dsimp only
      split <;> exact (sink.hear_of_quiet rfl).symm
  | lenient => exact (sink.hear_warn _).symm

end Gate

namespace Compile

variable (e : Entity) (a : AllowList) (policy : Policy) (sink : Sink)

open Sink (hear_bind hear_pure hear_lift hear_lookup hear_debug)

/-- The fragment of a field. -/
lemma fragment_hear (field : String) (d : Direction) :
    fragment e a ⟨policy, sink⟩ field d =
      sink.hear (fragment e a ⟨policy, .recording⟩ field d) := by
  rw [fragment, fragment]
  split
  · rcases Field.ofColumn field with name | ⟨relation, column⟩ | name
    · rw [hear_pure]
    · dsimp only
      split
      · rw [hear_bind, hear_lookup]
        simp only [hear_pure]
      · rw [hear_bind, hear_lookup]
        simp only [hear_bind, hear_pure, ← Gate.violation_hear]
    · rw [hear_pure]
  · simp only [hear_bind, hear_pure, ← Gate.violation_hear]

/-- The fragments of tokens, one after the other. -/
lemma fragments_hear (tokens : List Token) :
    fragments e a ⟨policy, sink⟩ tokens =
      sink.hear (fragments e a ⟨policy, .recording⟩ tokens) := by
  induction tokens with
  | nil => exact (hear_pure sink []).symm
  | cons t rest ih =>
      rw [fragments, fragments, hear_bind, ← fragment_hear, ih]
      simp only [hear_bind, hear_pure]

lemma rejectCombined_hear (spec : String) :
    rejectCombined ⟨policy, sink⟩ spec = sink.hear (rejectCombined ⟨policy, .recording⟩ spec) := by
  rw [rejectCombined, rejectCombined]
  simp only [hear_bind, hear_pure, ← Gate.violation_hear]

lemma dispatch_hear (o : Owner) (raw : String) :
    dispatch o a ⟨policy, sink⟩ raw = sink.hear (dispatch o a ⟨policy, .recording⟩ raw) := by
  rw [dispatch, dispatch]
  dsimp only
  split
  · exact rejectCombined_hear policy sink _
  · split
    · simp only [hear_bind, hear_pure, hear_lift, hear_debug]
    · simp only [hear_bind, hear_pure, ← Gate.violation_hear]

/-- A specification is compiled as the receiver of warnings hears the recorded compilation. -/
theorem compile_hear (raw : Value) :
    compile e a ⟨policy, sink⟩ raw = sink.hear (compile e a ⟨policy, .recording⟩ raw) := by
  rw [compile, compile]
  rcases raw.text? with _ | spec
  · exact (hear_pure sink _).symm
  · dsimp only
    split
    · exact (hear_pure sink _).symm
    · rw [compileText, compileText]
      dsimp only
      split
      · exact dispatch_hear a policy sink e.toOwner spec
      · split
        · exact rejectCombined_hear policy sink _
        · rw [hear_bind, ← fragments_hear]
          simp only [hear_bind, hear_pure, hear_debug]

end Compile

/-- To apply a plan nothing is warned of. -/
lemma Plan.apply_warnings [Orderings] (e : Entity) (p : Plan) (s : Statement) :
    (p.apply e s).warnings = [] := by
  rcases hcustom : p.custom with _ | call
  · by_cases hfragments : p.fragments = []
    · rw [apply_of_empty hcustom hfragments]
      rfl
    · rw [(apply_of_fragments hcustom hfragments).warnings]
      rfl
  · rw [apply_of_call hcustom]
    rfl

namespace Registry

variable (r : Registry) (model : String) (a : AllowList) (policy : Policy) (sink : Sink)

/-- A compiler compiles as its receiver of warnings hears the recorded compilation. -/
lemma compile_hear (raw : Value) :
    r.compile ⟨model, a, ⟨policy, sink⟩⟩ raw =
      sink.hear (r.compile ⟨model, a, ⟨policy, .recording⟩⟩ raw) := by
  rw [compile, compile, Sink.hear_bind, Sink.hear_lift]
  simp only [Compile.compile_hear _ _ policy sink]

/-- A compiler sorts as its receiver of warnings hears the recorded sort. -/
lemma apply_hear [Orderings] (raw : Value) (given : Option Statement) :
    r.apply ⟨model, a, ⟨policy, sink⟩⟩ raw given =
      sink.hear (r.apply ⟨model, a, ⟨policy, .recording⟩⟩ raw given) := by
  have hplan : ∀ e s p, sink.hear (Plan.apply e p s) = p.apply e s :=
    fun e s p => sink.hear_of_quiet (p.apply_warnings e s)
  rw [apply, apply, Sink.hear_bind, Sink.hear_lift]
  simp only [applySpec, Sink.hear_bind, hplan, ← Compile.compile_hear _ _ policy sink]

end Registry

/-! ### Failures of the relations -/

/-- A fault that is no stop of the run from outside. -/
def Internal (fault? : Option Failure) : Prop :=
  ∀ message, fault? ≠ some (.interrupted message)

lemma Internal.none : Internal none := by
  intro message h
  cases h

/-- A relation that leads nowhere is a fault of the mapping. -/
lemma Internal.declaration (fault : ModelFault) : Internal (some (.declaration fault)) := by
  intro message h
  cases h

lemma Internal.or {fault? fault'? : Option Failure} (h : Internal fault?)
    (h' : Internal fault'?) : Internal (fault? <|> fault'?) := by
  intro message
  cases fault? with
  | none => exact h' message
  | some failure => exact h message

namespace Registry

variable (r : Registry)

lemma find_ne_interrupted (model message : String) :
    r.find model ≠ .error (.interrupted message) := by
  intro h
  rw [find] at h
  split at h
  · cases h
  · cases h

lemma attributeOf_ne_interrupted (model name message : String) :
    r.attributeOf model name ≠ .error (.interrupted message) := by
  intro h
  rw [attributeOf] at h
  rcases hfind : r.find model with failure | m
  · rw [hfind] at h
    cases h
    exact r.find_ne_interrupted model message hfind
  · rw [hfind] at h
    rcases hfound : r.attribute? model name with _ | found
    · simp only [hfound] at h
      cases h
    · simp only [hfound] at h
      cases h

lemma internal_sideFault (relation model name : String) :
    Internal (r.sideFault? relation model name) := by
  intro message h
  rw [sideFault?] at h
  split at h
  · cases h
  · cases h
  · next failure hattribute =>
    obtain rfl : failure = .interrupted message := Option.some.inj h
    exact r.attributeOf_ne_interrupted model name message hattribute

lemma internal_linkFault (here : Registry) (l : Link) : Internal (r.linkFault? here l) := by
  rw [linkFault?]
  split
  · next failure hfind =>
    intro message h
    obtain rfl : failure = .interrupted message := Option.some.inj h
    exact r.find_ne_interrupted l.target message hfind
  · refine Internal.or ?_ ?_
    · split
      · exact Internal.or (here.internal_sideFault _ _ _) (r.internal_sideFault _ _ _)
      · exact Internal.or (r.internal_sideFault _ _ _) (here.internal_sideFault _ _ _)
    · split
      · exact .none
      · exact .declaration _

lemma internal_relationFaultAmong (models : Registry) :
    Internal (r.relationFaultAmong? models) := by
  induction models with
  | nil => exact .none
  | cons m earlier ih =>
      refine Internal.or ih fun message h => ?_
      obtain ⟨l, -, hl⟩ := List.exists_of_findSome?_eq_some h
      split at hl
      · exact r.internal_linkFault (m :: earlier) l message hl
      · cases hl

end Registry

/-- Relations that cannot be used stop no run from outside. -/
lemma Session.internal_mappingFault (session : Session) : Internal session.mappingFault? := by
  rw [mappingFault?]
  split
  · exact session.models.internal_relationFaultAmong session.models
  · exact .none
  · exact .declaration _

/-! ### Sorts that are warned of -/

/-- What is warned of has a plan, and that of no custom ordering. -/
lemma Compile.plan_of_warned {e : Entity} {a : AllowList} {policy : Policy} {raw : Value}
    (h : (compile e a ⟨policy, .recording⟩ raw).warnings ≠ []) :
    ∃ p, (compile e a ⟨policy, .recording⟩ raw).result = .ok p ∧ p.custom = none := by
  cases policy with
  | strict => exact absurd (compile_strict_warnings e a .recording raw) h
  | lenient =>
      have hrefusals : (Request.ofValue raw).refusals e a ≠ [] := by
        intro hnil
        rw [compile_recording_warnings, hnil] at h
        exact h rfl
      rw [compile_recording_result]
      rcases hplan : (Request.ofValue raw).plan e a with failure | p
      · exact absurd (Request.plan_eq_error hplan).1 hrefusals
      · refine ⟨p, rfl, ?_⟩
        rcases hcustom : p.custom with _ | call
        · rfl
        · have hcalls := Request.calls_of_plan hplan hcustom
          exact absurd (Request.plan_of_calls hcalls).1 hrefusals

namespace Registry

variable {r : Registry} {model : String} {a : AllowList} {policy : Policy} {raw : Value}

/-- The strict policy compiles without a warning. -/
lemma compile_strict_warnings :
    (r.compile ⟨model, a, ⟨.strict, .recording⟩⟩ raw).warnings = [] := by
  rcases he : r.entity model with failure | e
  · rw [compile, he]
    rfl
  · rw [compile_of_entity (c := ⟨model, a, ⟨.strict, .recording⟩⟩) he]
    exact Compile.compile_strict_warnings e a .recording raw

/-- A sort warns of what it warns of to compile. -/
lemma apply_warnings [Orderings] (c : Compiler) (given : Option Statement) :
    (r.apply c raw given).warnings = (r.compile c raw).warnings := by
  rcases he : r.entity c.model with failure | e
  · rw [apply, compile, he]
    rfl
  · rw [apply_of_entity he]
    exact Traced.warnings_bind_of_quiet fun p => p.apply_warnings e _

/-- What is warned of compiles. -/
lemma compile_of_warned (h : (r.compile ⟨model, a, ⟨policy, .recording⟩⟩ raw).warnings ≠ [])
    (message : String) :
    (r.compile ⟨model, a, ⟨policy, .recording⟩⟩ raw).result ≠ .error (.interrupted message) := by
  rcases he : r.entity model with failure | e
  · rw [compile, he] at h
    exact absurd rfl h
  · rw [compile_of_entity (c := ⟨model, a, ⟨policy, .recording⟩⟩) he] at h ⊢
    obtain ⟨p, hp, -⟩ := Compile.plan_of_warned h
    rw [hp]
    intro hfails
    cases hfails

/-- What is warned of is not stopped when it is applied, since it calls no custom ordering. -/
lemma apply_of_warned [Orderings] {given : Option Statement}
    (h : (r.apply ⟨model, a, ⟨policy, .recording⟩⟩ raw given).warnings ≠ []) (message : String) :
    (r.apply ⟨model, a, ⟨policy, .recording⟩⟩ raw given).result ≠
      .error (.interrupted message) := by
  rw [apply_warnings] at h
  rcases he : r.entity model with failure | e
  · rw [compile, he] at h
    exact absurd rfl h
  · have hcompile := compile_of_entity (c := ⟨model, a, ⟨policy, .recording⟩⟩) he raw
    rw [apply_of_entity (c := ⟨model, a, ⟨policy, .recording⟩⟩) he, hcompile]
    rw [hcompile] at h
    obtain ⟨p, hp, hcustom⟩ := Compile.plan_of_warned h
    rw [Traced.bind_of_ok hp]
    intro hfails
    rcases Plan.apply_eq_error hfails with ⟨call, hcall, -⟩ | ⟨relation, hmem, hjoin⟩
    · rw [hcustom] at hcall
      cases hcall
    · have hrelation := Compile.hasRelation_of_mem_joins hp hmem
      cases displaced_of_joinOf he hrelation hjoin

end Registry

/-! ### Every receiver -/

/-- The receiver of warnings makes no difference to an outcome, except that one which stops
the run stops it at the first warning. -/
structure Sink.Irrelevant {α : Type} (done : Sink → Traced α) : Prop where
  /-- Of receivers that do not stop the run, only the warnings that they take differ. -/
  alike : ∀ sink sink', sink ≠ .interrupting → sink' ≠ .interrupting →
    (done sink).mute = (done sink').mute
  /-- Without a warning there is nothing to stop. -/
  quiet : (done .recording).warnings = [] → ∀ sink, done sink = done .recording
  /-- With a warning the stop is what the run fails with. -/
  stopped : (done .recording).warnings ≠ [] →
    (done .interrupting).result = .error (.interrupted "log sink is down")
  /-- A stopped run has a result of its own. -/
  differs : (done .interrupting).result = (done .recording).result ↔
    (done .recording).warnings = []

/-- A receiver hears of the recorded outcome only what it can do nothing about, unless the
outcome looks like a stop although there is a warning. -/
lemma Sink.Irrelevant.of_hear {α : Type} {done : Sink → Traced α}
    (hear : ∀ sink, done sink = sink.hear (done .recording))
    (hresult : (done .recording).warnings ≠ [] →
      ∀ message, (done .recording).result ≠ .error (.interrupted message)) :
    Sink.Irrelevant done := by
  have hquiet : (done .recording).warnings = [] → ∀ sink, done sink = done .recording := by
    intro h sink
    rw [hear sink, sink.hear_of_quiet h]
  have hstopped : (done .recording).warnings ≠ [] →
      (done .interrupting).result = .error (.interrupted "log sink is down") := by
    intro h
    rw [hear .interrupting, Sink.hear_of_warned h]
  refine ⟨fun sink sink' h h' => ?_, hquiet, hstopped, ?_, fun h => by rw [hquiet h]⟩
  · rw [hear sink, hear sink', Sink.mute_hear h, Sink.mute_hear h']
  · intro hsame
    by_contra hwarned
    rw [hstopped hwarned] at hsame
    exact hresult hwarned _ hsame.symm

namespace Session

variable {α : Type} (session : Session)

/-- Relations that cannot be resolved end an outcome in the same place whoever receives its
warnings. -/
lemma outcome_hear (sink : Sink) (x : Traced α) :
    session.outcome (sink.hear x) = sink.hear (session.outcome x) := by
  have hwarning : ∀ event, event.isWarning = true → session.lookupFault? event = none := by
    intro event h
    cases event with
    | warning message => rfl
    | call label d s => cases h
    | lookup => cases h
    | debug channel message => cases h
  have hone : ∀ event, Sink.stop? event = none ∨ session.lookupFault? event = none := by
    intro event
    by_cases h : event.isWarning = true
    · exact .inr (hwarning event h)
    · exact .inl (if_neg h)
  cases sink with
  | recording => rfl
  | interrupting => exact Traced.stopAt_comm hone x
  | absent => exact Traced.stopAt_mute hwarning x
  | broken => exact Traced.stopAt_mute hwarning x
  | unable => exact Traced.stopAt_mute hwarning x

/-- Where the relations end an outcome no run is stopped from outside. -/
lemma outcome_of_warned {x : Traced α}
    (hresult : x.warnings ≠ [] → ∀ message, x.result ≠ .error (.interrupted message))
    (h : (session.outcome x).warnings ≠ []) (message : String) :
    (session.outcome x).result ≠ .error (.interrupted message) := by
  intro hfails
  rcases outcome_eq_error_iff.mp hfails with ⟨hmapping, -⟩ | ⟨-, hfails⟩
  · exact session.internal_mappingFault message hmapping
  · exact hresult (Traced.warnings_of_stopAt h) message hfails

/-- What comes of a compilation and of a sort does not depend on the receiver of warnings:
whether there is none, it takes them, fails to take them or does not know how to, the result,
the calls of custom orderings and every other event but the warnings are the same. A receiver
that stops the run has the same outcome exactly if there is no warning, and otherwise its stop
is what the run fails with. Under the strict policy nothing is warned of, so that every
receiver has the same outcome. -/
theorem sink_irrelevant [Orderings] (model : String) (a : AllowList) (raw : Value)
    (given : Option Statement) :
    let compiled policy sink :=
      session.outcome (session.models.compile ⟨model, a, ⟨policy, sink⟩⟩ raw)
    let applied policy sink :=
      session.outcome (session.models.apply ⟨model, a, ⟨policy, sink⟩⟩ raw given)
    (∀ policy, Sink.Irrelevant (compiled policy) ∧ Sink.Irrelevant (applied policy)) ∧
      ∀ sink, (compiled .strict sink).warnings = [] ∧ (applied .strict sink).warnings = [] ∧
        compiled .strict sink = compiled .strict .recording ∧
        applied .strict sink = applied .strict .recording := by
  intro compiled applied
  have hcompiled : ∀ policy, Sink.Irrelevant (compiled policy) := by
    intro policy
    refine .of_hear (fun sink => ?_) (session.outcome_of_warned Registry.compile_of_warned)
    rw [← outcome_hear, ← Registry.compile_hear]
  have happlied : ∀ policy, Sink.Irrelevant (applied policy) := by
    intro policy
    refine .of_hear (fun sink => ?_) (session.outcome_of_warned Registry.apply_of_warned)
    rw [← outcome_hear, ← Registry.apply_hear]
  have hstrict : ∀ {β : Type} {x : Traced β}, x.warnings = [] →
      (session.outcome x).warnings = [] :=
    fun h => by_contra fun hne => Traced.warnings_of_stopAt hne h
  have hquiet : (compiled .strict .recording).warnings = [] ∧
      (applied .strict .recording).warnings = [] :=
    ⟨hstrict Registry.compile_strict_warnings,
      hstrict (by rw [Registry.apply_warnings, Registry.compile_strict_warnings])⟩
  refine ⟨fun policy => ⟨hcompiled policy, happlied policy⟩, fun sink => ?_⟩
  have hc := (hcompiled .strict).quiet hquiet.1 sink
  have ha := (happlied .strict).quiet hquiet.2 sink
  refine ⟨?_, ?_, hc, ha⟩
  · rw [hc]
    exact hquiet.1
  · rw [ha]
    exact hquiet.2

/-- A field that is not allowed is warned of. Without a receiver of warnings the sort goes on
as with one that fails, and one that stops the run is what it fails with. -/
theorem sink_irrelevant_books :
    let _ : Orderings := .ofActs []
    let book : Model := {
      name := "Book", title := "Book", parent := none, mapped := true, sortable := false
      table := "books", bases := [], columns := [⟨"id", none⟩], homes := [("id", "books")]
      members := [("id", .column ⟨"id", none⟩)]
      attributes := [("id", .column ⟨"id", none⟩)] }
    let session : Session := .start [book]
    let sorted sink := session.outcome
      (session.models.apply ⟨"Book", ⟨["id"], []⟩, ⟨.lenient, sink⟩⟩ (.text "isbn,id:desc") none)
    (sorted .recording).warnings = ["ignoring disallowed column: isbn"] ∧
      (sorted .absent).mute = (sorted .broken).mute ∧
      (sorted .interrupting).result = .error (.interrupted "log sink is down") ∧
      (sorted .interrupting).result ≠ (sorted .recording).result := by
  intro _ book session sorted
  have hwarnings : (sorted .recording).warnings = ["ignoring disallowed column: isbn"] := by
    decide +kernel
  have hwarned : (sorted .recording).warnings ≠ [] := by
    rw [hwarnings]
    exact List.cons_ne_nil _ _
  have hsorted := ((sink_irrelevant session "Book" ⟨["id"], []⟩ (.text "isbn,id:desc") none).1
    .lenient).2
  refine ⟨hwarnings, hsorted.alike _ _ (by decide) (by decide), hsorted.stopped hwarned, ?_⟩
  exact fun hsame => hwarned (hsorted.differs.mp hsame)

end Session

end QueryOrder
