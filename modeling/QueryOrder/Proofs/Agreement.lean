/-
The two policies agree on everything but what a violation leads to.

* `compile_strict_sink`: the strict policy has no use for a receiver of warnings;
* `strict_agrees_with_lenient`: a specification has a plan under the strict policy
  exactly if it has this plan under the lenient one without a warning, it fails for a
  violation exactly if there is a warning, the first of which is of that violation,
  and a missing custom ordering fails under both.
-/
import QueryOrder.Proofs.Request

namespace QueryOrder.Compile

variable (e : Entity) (a : AllowList)

/-! ### The receiver of warnings -/

/-- The fragments of tokens under the strict policy do not depend on the receiver of
warnings. -/
lemma fragments_strict_sink (sink sink' : Sink) (tokens : List Token) :
    fragments e a ⟨.strict, sink⟩ tokens = fragments e a ⟨.strict, sink'⟩ tokens := by
  induction tokens with
  | nil => rfl
  | cons t rest ih =>
      rw [fragments, fragments, ih]
      rfl

/-- The strict policy has no use for a receiver of warnings. -/
lemma compile_strict_sink (sink sink' : Sink) (raw : Value) :
    compile e a ⟨.strict, sink⟩ raw = compile e a ⟨.strict, sink'⟩ raw := by
  rw [compile, compile]
  split
  · next spec _ =>
    simp only [compileText, fragments_strict_sink e a sink sink']
    rfl
  · rfl

/-! ### Plans, violations and missing custom orderings -/

variable {e a}

/-- A plan under the strict policy is one under the lenient policy without a warning. -/
lemma strict_eq_ok_iff {raw : Value} {sink : Sink} {p : Plan} :
    (compile e a ⟨.strict, sink⟩ raw).result = .ok p ↔
      (compile e a ⟨.lenient, .recording⟩ raw).result = .ok p ∧
        (compile e a ⟨.lenient, .recording⟩ raw).warnings = [] := by
  rw [compile_strict_result, compile_recording_result, compile_recording_warnings]
  rcases (Request.ofValue raw).refusals e a with _ | ⟨r, rest⟩ <;> simp [Refusal.failure]

/-- There is a violation under the strict policy exactly if there is a plan and a warning
under the lenient one. -/
lemma exists_violation_iff {raw : Value} {sink : Sink} :
    (∃ cause message field critical, (compile e a ⟨.strict, sink⟩ raw).result =
        .error (.violation cause message field critical)) ↔
      (∃ p, (compile e a ⟨.lenient, .recording⟩ raw).result = .ok p) ∧
        (compile e a ⟨.lenient, .recording⟩ raw).warnings ≠ [] := by
  simp only [strict_eq_violation_iff, compile_recording_result, compile_recording_warnings]
  rcases hr : (Request.ofValue raw).refusals e a with _ | ⟨⟨cause, field, critical, message⟩, rest⟩
  · simp
  · refine ⟨fun _ => ⟨?_, by simp⟩, fun _ => ⟨cause, message, field, critical, rfl⟩⟩
    rcases hp : (Request.ofValue raw).plan e a with failure | p
    · rw [(Request.plan_eq_error hp).1] at hr
      cases hr
    · exact ⟨p, rfl⟩

/-- The first warning is of the violation, and the only one if that is critical. -/
lemma warnings_of_violation {raw : Value} {sink : Sink} {cause : Violation}
    {message field : String} {critical : Bool}
    (h : (compile e a ⟨.strict, sink⟩ raw).result =
      .error (.violation cause message field critical)) :
    (compile e a ⟨.lenient, .recording⟩ raw).warnings.head? = some (Gate.warning field critical) ∧
      (critical = true →
        (compile e a ⟨.lenient, .recording⟩ raw).warnings = [Gate.warning field critical] ∧
          (compile e a ⟨.lenient, .recording⟩ raw).result = .ok .empty) := by
  have hhead := strict_eq_violation_iff.mp h
  rw [compile_recording_warnings, compile_recording_result]
  refine ⟨by rw [List.head?_map, hhead]; rfl, fun hcritical => ?_⟩
  have hmem := List.mem_of_mem_head? (Option.mem_def.mpr hhead)
  obtain ⟨hsingle, hplan⟩ := Request.eq_singleton_of_critical hmem hcritical
  exact ⟨by rw [hsingle]; rfl, hplan⟩

/-- A missing custom ordering fails under the strict policy exactly if it fails under
the lenient one. -/
lemma strict_eq_missing_iff {raw : Value} {sink : Sink} {model field method : String} :
    (compile e a ⟨.strict, sink⟩ raw).result = .error (.missingScope model field method) ↔
      (compile e a ⟨.lenient, .recording⟩ raw).result =
        .error (.missingScope model field method) := by
  rw [compile_strict_result, compile_recording_result]
  rcases hr : (Request.ofValue raw).refusals e a with _ | ⟨r, rest⟩
  · rfl
  · constructor
    · intro h
      cases h
    · intro h
      rw [(Request.plan_eq_error h).1] at hr
      cases hr

/-- Nothing is warned of beside a missing custom ordering. -/
lemma warnings_of_missing {raw : Value} {model field method : String}
    (h : (compile e a ⟨.lenient, .recording⟩ raw).result =
      .error (.missingScope model field method)) :
    (compile e a ⟨.lenient, .recording⟩ raw).warnings = [] := by
  rw [compile_recording_result] at h
  rw [compile_recording_warnings, (Request.plan_eq_error h).1]
  rfl

/-! ### The agreement -/

variable (e a)

/-- A specification has a plan under the strict policy exactly if it has this plan
under the lenient one without a warning. It fails for a violation under the strict
policy exactly if it has a plan and a warning under the lenient one; then the first
warning is of that violation, and of a critical one it is the only one and the plan
is empty. A custom ordering that is missing fails under both policies in the same
way, without a warning. The strict policy never warns, and does not depend on the
receiver of warnings at all. The relations of the models are assumed to be resolved, where
a session answers with just this (`Session.step_compile_of_resolved`). -/
theorem strict_agrees_with_lenient (raw : Value) (sink : Sink) :
    let strict := compile e a ⟨.strict, sink⟩ raw
    let lenient := compile e a ⟨.lenient, .recording⟩ raw
    (∀ p, strict.result = .ok p ↔ lenient.result = .ok p ∧ lenient.warnings = []) ∧
    ((∃ cause message field critical,
        strict.result = .error (.violation cause message field critical)) ↔
      (∃ p, lenient.result = .ok p) ∧ lenient.warnings ≠ []) ∧
    (∀ cause message field critical,
      strict.result = .error (.violation cause message field critical) →
        lenient.warnings.head? = some ((if critical then "ignoring all columns due to "
          else "ignoring disallowed column: ") ++ field) ∧
        (critical = true → lenient.warnings = ["ignoring all columns due to " ++ field] ∧
          lenient.result = .ok .empty)) ∧
    (∀ model field method, strict.result = .error (.missingScope model field method) ↔
      lenient.result = .error (.missingScope model field method)) ∧
    (∀ model field method, lenient.result = .error (.missingScope model field method) →
      lenient.warnings = []) ∧
    strict.warnings = [] ∧
    ∀ sink', compile e a ⟨.strict, sink'⟩ raw = strict := by
  intro strict lenient
  refine ⟨fun p => strict_eq_ok_iff, exists_violation_iff, ?_, fun _ _ _ => strict_eq_missing_iff,
    fun _ _ _ => warnings_of_missing, compile_strict_warnings e a sink raw,
    fun sink' => compile_strict_sink e a sink' sink raw⟩
  intro cause message field critical h
  obtain ⟨hfirst, honly⟩ := warnings_of_violation h
  refine ⟨hfirst, fun hcritical => ?_⟩
  obtain ⟨hwarnings, hplan⟩ := honly hcritical
  rw [hcritical] at hwarnings
  exact ⟨hwarnings, hplan⟩

end QueryOrder.Compile
