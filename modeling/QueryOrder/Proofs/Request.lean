/-
What a specification asks for.

A specification is read in two ways: as a whole, where it may start as a custom
ordering, and token by token. The two ways come to one reading.

* `Request`, `Request.ofValue`: what a value asks for, by its tokens alone;
* `ofText_cases`: the three things that a text can ask for;
* `Request.refusals`, `Request.plan`: what is refused of a request, and what it
  comes to without that;
* `compile_alike`: to compile a value is to hand the refusals of its request to the
  gate, and then to have its plan;
* `compile_strict_result`, `compile_strict_warnings`, `compile_recording_result`,
  `compile_recording_warnings`: what comes of it under the two policies;
* `joins_eq`, `exists_granted`: what a plan joins, and where its fragments come from;
* `eq_singleton_of_critical`: a critical refusal is the only one, and leaves nothing
  of the plan.
-/
import QueryOrder.Compile.Basic
import QueryOrder.Proofs.Ruling
import QueryOrder.Proofs.Token.Reading

namespace QueryOrder

/-- What a specification asks for. -/
inductive Request where
  /-- An order by columns. -/
  | columns (tokens : List Token)
  /-- A custom ordering, and nothing else. -/
  | custom (t : Token)
  /-- A custom ordering beside other columns, with the trimmed specification. -/
  | combined (spec : String)
deriving DecidableEq, Repr

namespace Request

/-! ### Reading -/

/-- What a text asks for, by its tokens: a custom ordering among them has to be the
whole specification. -/
def ofText (spec : String) : Request :=
  match (Token.parse spec).find? fun t => Field.isCustom t.field with
  | none => .columns (Token.parse spec)
  | some t => if ',' ∈ spec.toList then .combined (Text.trimmed spec) else .custom t

/-- What a value asks for. What is no text asks for nothing. -/
def ofValue (raw : Value) : Request :=
  match raw.text? with
  | some spec => ofText spec
  | none => .columns []

lemma ofValue_of_text {raw : Value} {spec : String} (hraw : raw.text? = some spec) :
    ofValue raw = ofText spec := by
  rw [ofValue, hraw]

/-- Without a custom ordering a text asks for its tokens. -/
lemma ofText_of_plain {spec : String}
    (h : ∀ t ∈ Token.parse spec, Field.isCustom t.field = false) :
    ofText spec = .columns (Token.parse spec) := by
  have hnone : (Token.parse spec).find? (fun t => Field.isCustom t.field) = none :=
    List.find?_eq_none.mpr fun t ht => by simp [h t ht]
  rw [ofText, hnone]

/-- So does a value that is such a text. -/
lemma ofValue_of_plain {raw : Value} {spec : String} (hraw : raw.text? = some spec)
    (h : ∀ t ∈ Token.parse spec, Field.isCustom t.field = false) :
    ofValue raw = .columns (Token.parse spec) := by
  rw [ofValue_of_text hraw, ofText_of_plain h]

/-- A custom ordering in a text with a comma stands beside other columns. -/
lemma ofText_of_comma {spec : String} (hcomma : ',' ∈ spec.toList) {t : Token}
    (ht : t ∈ Token.parse spec) (hcustom : Field.isCustom t.field = true) :
    ofText spec = .combined (Text.trimmed spec) := by
  rw [ofText]
  split
  · next hnone => exact absurd hcustom (by simpa using List.find?_eq_none.mp hnone t ht)
  · rw [if_pos hcomma]

/-- A custom ordering in a text without a comma is the whole of it. -/
lemma ofText_of_no_comma {spec : String} (hcomma : ',' ∉ spec.toList) {t : Token}
    (ht : t ∈ Token.parse spec) (hcustom : Field.isCustom t.field = true) :
    Token.parse spec = [t] ∧ ofText spec = .custom t := by
  have hparse : Token.parse spec = [t] := by
    rw [Token.parse_of_no_comma hcomma] at ht ⊢
    rw [Option.mem_toList.mp ht]
    rfl
  refine ⟨hparse, ?_⟩
  have hfind : [t].find? (fun t => Field.isCustom t.field) = some t := by simp [hcustom]
  rw [ofText, hparse, hfind]
  exact if_neg hcomma

/-- A text asks for columns alone, for a custom ordering beside other columns, or for a
custom ordering that is all of it. -/
lemma ofText_cases (spec : String) :
    ((∀ t ∈ Token.parse spec, Field.isCustom t.field = false) ∧
      ofText spec = .columns (Token.parse spec)) ∨
    (',' ∈ spec.toList ∧ (∃ t ∈ Token.parse spec, Field.isCustom t.field = true) ∧
      ofText spec = .combined (Text.trimmed spec)) ∨
    ∃ t, ',' ∉ spec.toList ∧ Token.parse spec = [t] ∧ Field.isCustom t.field = true ∧
      ofText spec = .custom t := by
  by_cases hany : ∃ t ∈ Token.parse spec, Field.isCustom t.field = true
  · obtain ⟨t, ht, hcustom⟩ := hany
    right
    by_cases hcomma : ',' ∈ spec.toList
    · exact Or.inl ⟨hcomma, ⟨t, ht, hcustom⟩, ofText_of_comma hcomma ht hcustom⟩
    · obtain ⟨hparse, hrequest⟩ := ofText_of_no_comma hcomma ht hcustom
      exact Or.inr ⟨t, hcomma, hparse, hcustom, hrequest⟩
  · have hplain : ∀ t ∈ Token.parse spec, Field.isCustom t.field = false :=
      fun t ht => by simpa using fun h => hany ⟨t, ht, h⟩
    exact Or.inl ⟨hplain, ofText_of_plain hplain⟩

/-! ### What a request comes to -/

variable (e : Entity) (a : AllowList)

/-- What is refused of a request, in order. -/
def refusals : Request → List Refusal
  | columns tokens => tokens.filterMap (Compile.refused? e a)
  | custom t => if a.allows t.field then [] else [.ofScope t.field]
  | combined spec => [.ofCombined spec]

/-- What a request comes to without what is refused of it. -/
def plan : Request → Except Failure Plan
  | columns tokens => .ok (.ofFragments (tokens.filterMap (Compile.granted? e a)))
  | custom t =>
    if a.allows t.field then do
      return .ofCall ⟨t.field, ← Compile.resolve e.toOwner a t.field, t.direction⟩
    else .ok .empty
  | combined _ => .ok .empty

variable {e a}

/-- Only a custom ordering beside other columns is refused as such, or as a whole. -/
lemma eq_combined_of_refusal {q : Request} {r : Refusal} (hr : r ∈ q.refusals e a)
    (h : r.cause = .combined ∨ r.critical = true) :
    ∃ spec, q = .combined spec ∧ r = .ofCombined spec := by
  cases q with
  | columns tokens =>
      obtain ⟨t, -, ht⟩ := List.mem_filterMap.mp hr
      rw [Compile.refused?] at ht
      split at ht
      · cases ht
      · next r' hruling =>
        obtain rfl : r' = r := Option.some.inj ht
        rcases Compile.ruling_eq_error hruling with rfl | ⟨relation, rfl⟩ <;>
          rcases h with h | h <;> cases h
  | custom t =>
      rw [refusals] at hr
      split at hr
      · cases hr
      · obtain rfl : r = .ofScope t.field := List.mem_singleton.mp hr
        rcases h with h | h <;> cases h
  | combined spec => exact ⟨spec, rfl, List.mem_singleton.mp hr⟩

/-- A critical refusal is the only one, and leaves nothing of the plan. -/
lemma eq_singleton_of_critical {q : Request} {r : Refusal} (hr : r ∈ q.refusals e a)
    (hcritical : r.critical = true) : q.refusals e a = [r] ∧ q.plan e a = .ok .empty := by
  obtain ⟨spec, rfl, rfl⟩ := eq_combined_of_refusal hr (Or.inr hcritical)
  exact ⟨rfl, rfl⟩

/-- A plan is one of columns, an empty one, or the call of an allowed custom ordering. -/
lemma plan_eq_ok {q : Request} {p : Plan} (h : q.plan e a = .ok p) :
    (∃ tokens, q = .columns tokens ∧
      p = .ofFragments (tokens.filterMap (Compile.granted? e a))) ∨
    p = .empty ∨
    ∃ t scope, q = .custom t ∧ t.field ∈ a.fields ∧
      Compile.resolve e.toOwner a t.field = .ok scope ∧
      p = .ofCall ⟨t.field, scope, t.direction⟩ := by
  cases q with
  | columns tokens => exact Or.inl ⟨tokens, rfl, (Except.ok.inj h).symm⟩
  | custom t =>
      right
      rw [plan] at h
      by_cases hallowed : a.allows t.field = true
      · rw [if_pos hallowed] at h
        rcases hscope : Compile.resolve e.toOwner a t.field with failure | scope
        · rw [hscope] at h
          cases h
        · rw [hscope] at h
          exact Or.inr ⟨t, scope, rfl, AllowList.allows_iff.mp hallowed, hscope,
            (Except.ok.inj h).symm⟩
      · rw [if_neg hallowed] at h
        exact Or.inl (Except.ok.inj h).symm
  | combined spec => exact Or.inr (Or.inl (Except.ok.inj h).symm)

/-- Only an order by columns has terms. -/
lemma fragments_of_plan {q : Request} {p : Plan} (h : q.plan e a = .ok p) :
    p.fragments = [] ∨
      ∃ tokens, q = .columns tokens ∧ p.fragments = tokens.filterMap (Compile.granted? e a) := by
  rcases plan_eq_ok h with ⟨tokens, rfl, rfl⟩ | rfl | ⟨t, scope, -, -, -, rfl⟩
  · exact Or.inr ⟨tokens, rfl, rfl⟩
  · exact Or.inl rfl
  · exact Or.inl rfl

/-- An order by columns is one by all tokens, and none of them is a custom ordering. -/
lemma tokens_of_columns {raw : Value} {tokens : List Token} (h : ofValue raw = .columns tokens) :
    tokens = Compile.tokens raw ∧ ∀ t ∈ tokens, Field.isCustom t.field = false := by
  rw [Compile.tokens]
  rcases hraw : raw.text? with _ | spec
  · rw [ofValue, hraw] at h
    obtain rfl : [] = tokens := Request.columns.inj h
    exact ⟨rfl, fun t ht => absurd ht List.not_mem_nil⟩
  · rw [ofValue_of_text hraw] at h
    rcases ofText_cases spec with ⟨hplain, hq⟩ | ⟨-, -, hq⟩ | ⟨t, -, -, -, hq⟩
    · rw [hq] at h
      obtain rfl : Token.parse spec = tokens := Request.columns.inj h
      exact ⟨rfl, hplain⟩
    · rw [hq] at h
      cases h
    · rw [hq] at h
      cases h

/-- Only a custom ordering that is allowed and missing keeps a request from a plan, and
then nothing is refused. -/
lemma plan_eq_error {q : Request} {failure : Failure} (h : q.plan e a = .error failure) :
    q.refusals e a = [] ∧ ∃ field,
      failure = .missingScope e.name field (Field.method field) := by
  cases q with
  | columns tokens => cases h
  | custom t =>
      rw [plan] at h
      by_cases hallowed : a.allows t.field = true
      · rw [if_pos hallowed, Compile.resolve] at h
        refine ⟨by rw [refusals, if_pos hallowed], t.field, ?_⟩
        split at h
        · cases h
        · exact (Except.error.inj h).symm
      · rw [if_neg hallowed] at h
        cases h
  | combined spec => cases h

end Request

namespace Compile

open Traced (Alike)

variable {e : Entity} {a : AllowList}

/-! ### Compiling a request -/

/-- What a request comes to: its refusals, in order, and then its plan. -/
def serve (e : Entity) (a : AllowList) (g : Gate) (q : Request) : Traced Plan :=
  g.refuseAll (q.refusals e a) >>= fun _ => Traced.ofExcept (q.plan e a)

lemma rejectCombined_eq_serve (g : Gate) (spec : String) :
    rejectCombined g spec = serve e a g (.combined spec) := by
  rw [rejectCombined, g.violation_ofCombined, serve, Request.refusals, g.refuseAll_singleton]
  rfl

/-- The piece that a custom ordering is read from as a whole is the one that its token
is read from. -/
lemma split_trimmed {spec : String} {t : Token} (hcomma : ',' ∉ spec.toList)
    (ht : t ∈ Token.parse spec) :
    (Token.split (Text.trimmed spec).toList).1 = t.field ∧
      Direction.ofText (Token.split (Text.trimmed spec).toList).2 = t.direction := by
  rw [Token.parse_of_no_comma hcomma, Option.mem_toList] at ht
  obtain ⟨-, hfield, hdirection⟩ := Token.ofPiece?_eq_some ht
  rw [Token.split_trimmed]
  exact ⟨hfield.symm, hdirection.symm⟩

/-- A specification that consists of a custom ordering is served as one. -/
lemma dispatch_alike (g : Gate) {spec : String} {t : Token} (hcomma : ',' ∉ spec.toList)
    (ht : t ∈ Token.parse spec) :
    Alike (dispatch e.toOwner a g spec) (serve e a g (.custom t)) := by
  have htrimmed : (Text.trimmed spec).toList.contains ',' = false := by
    simpa [Text.mem_trim_iff Text.isBlank_comma] using hcomma
  obtain ⟨hfield, hdirection⟩ := split_trimmed hcomma ht
  rw [dispatch, serve, Request.refusals, Request.plan]
  simp only [htrimmed, Bool.false_eq_true, if_false, hfield, hdirection]
  by_cases hallowed : a.allows t.field = true
  · simp only [if_pos hallowed, Gate.refuseAll, pure_bind]
    rcases hscope : resolve e.toOwner a t.field with failure | scope
    · exact Alike.refl _
    · have hlift : (liftM (Except.ok scope : Except Failure Scope) : Traced Scope) = pure scope :=
        rfl
      rw [hlift, pure_bind]
      exact Traced.alike_emit rfl _
  · simp only [if_neg hallowed, Gate.refuseAll_singleton, g.violation_ofScope]
    exact Alike.refl _

/-- The plan of a text is what its request comes to. -/
lemma compileText_alike (g : Gate) (raw : Value) (spec : String) :
    Alike (compileText e a g raw spec) (serve e a g (.ofText spec)) := by
  rw [compileText]
  by_cases hcustom : Field.isCustom (Text.trimmed spec) = true
  · rw [if_pos hcustom]
    obtain ⟨t, rest, hparse, ht⟩ := Token.parse_eq_cons_of_isCustom hcustom
    have hmem : t ∈ Token.parse spec := by
      rw [hparse]
      exact List.mem_cons_self
    by_cases hcomma : ',' ∈ spec.toList
    · have htrimmed : (Text.trimmed spec).toList.contains ',' = true := by
        simpa [Text.mem_trim_iff Text.isBlank_comma] using hcomma
      rw [Request.ofText_of_comma hcomma hmem ht, ← rejectCombined_eq_serve, dispatch]
      simp only [htrimmed, if_true]
      exact Alike.refl _
    · rw [(Request.ofText_of_no_comma hcomma hmem ht).2]
      exact dispatch_alike g hcomma hmem
  · rw [if_neg hcustom]
    rcases Request.ofText_cases spec with
      ⟨hplain, hq⟩ | ⟨-, ⟨t, hmem, ht⟩, hq⟩ | ⟨t, hcomma, hparse, ht, -⟩
    · have hfalse : ((Token.parse spec).any fun t => Field.isCustom t.field) = false :=
        List.any_eq_false.mpr fun t ht => by simp [hplain t ht]
      rw [hq, serve]
      simp only [hfalse, Bool.false_eq_true, if_false]
      refine (Alike.bind (fragments_alike g _) fun fs => Traced.alike_emit rfl _).trans ?_
      rw [bind_assoc]
      simp only [pure_bind]
      exact Alike.refl _
    · have htrue : ((Token.parse spec).any fun t => Field.isCustom t.field) = true :=
        List.any_eq_true.mpr ⟨t, hmem, ht⟩
      rw [hq, ← rejectCombined_eq_serve]
      simp only [htrue, if_true]
      exact Alike.refl _
    · -- a text that does not start as a custom ordering has one only after a comma
      have hmem : t ∈ Token.parse spec := by
        rw [hparse]
        exact List.mem_cons_self
      exact absurd (Token.isCustom_trimmed_of_mem_parse hcomma hmem ht) hcustom

/-- A blank text has no tokens. -/
lemma parse_of_isBlank {raw : Value} {spec : String} (hraw : raw.text? = some spec)
    (hblank : isBlank raw = true) : Token.parse spec = [] := by
  have htrim : Text.trim spec.toList = [] := by simpa [isBlank, hraw] using hblank
  rw [← Token.parse_trimmed, Text.trimmed, htrim]
  rfl

/-- The plan of a value is what its request comes to. -/
theorem compile_alike (g : Gate) (raw : Value) :
    Alike (compile e a g raw) (serve e a g (.ofValue raw)) := by
  rw [compile, Request.ofValue]
  rcases hraw : raw.text? with _ | spec
  · exact Alike.refl _
  · dsimp only
    by_cases hblank : isBlank raw = true
    · have hparse : Token.parse spec = [] := parse_of_isBlank hraw hblank
      rw [if_pos hblank, Request.ofText_of_plain (by simp [hparse]), hparse]
      exact Alike.refl _
    · rw [if_neg hblank]
      exact compileText_alike g raw spec

/-! ### Outcomes under the policies -/

variable (e a)

/-- A plan that comes of a value is that of its request, whatever the gate. -/
lemma plan_of_compile_eq_ok {g : Gate} {raw : Value} {p : Plan}
    (h : (compile e a g raw).result = .ok p) : (Request.ofValue raw).plan e a = .ok p := by
  rw [(compile_alike g raw).result, serve] at h
  rcases hr : (g.refuseAll ((Request.ofValue raw).refusals e a)).result with failure | u
  · rw [Traced.bind_of_error hr] at h
    cases h
  · rw [Traced.bind_of_ok hr] at h
    exact h

/-- A plan without a custom ordering is that of its fragments. -/
lemma eq_ofFragments {g : Gate} {raw : Value} {p : Plan} (h : (compile e a g raw).result = .ok p)
    (hcustom : p.custom = none) : p = .ofFragments p.fragments := by
  rcases Request.plan_eq_ok (plan_of_compile_eq_ok e a h) with
    ⟨tokens, -, rfl⟩ | rfl | ⟨t, scope, -, -, -, rfl⟩
  · rfl
  · rfl
  · cases hcustom

/-- The strict policy stops at the first refusal, without a warning. -/
lemma serve_strict (sink : Sink) (q : Request) :
    serve e a ⟨.strict, sink⟩ q =
      ⟨[], match q.refusals e a with
        | [] => q.plan e a
        | r :: _ => .error r.failure⟩ := by
  rw [serve]
  rcases q.refusals e a with _ | ⟨r, rest⟩
  · rw [Gate.refuseAll, pure_bind]
    rfl
  · rw [Gate.refuseAll_strict]
    exact Traced.bind_of_error rfl _

/-- The strict policy comes to the first refusal, or else to the plan. -/
lemma compile_strict_result (sink : Sink) (raw : Value) :
    (compile e a ⟨.strict, sink⟩ raw).result =
      match (Request.ofValue raw).refusals e a with
      | [] => (Request.ofValue raw).plan e a
      | r :: _ => .error r.failure := by
  rw [(compile_alike _ raw).result, serve_strict]

/-- The strict policy never warns. -/
lemma compile_strict_warnings (sink : Sink) (raw : Value) :
    (compile e a ⟨.strict, sink⟩ raw).warnings = [] := by
  rw [(compile_alike _ raw).warnings, serve_strict]
  rfl

/-- The lenient policy warns of every refusal and goes on with the plan. -/
lemma serve_recording (q : Request) :
    serve e a ⟨.lenient, .recording⟩ q =
      ⟨(q.refusals e a).map fun r => .warning r.warning, q.plan e a⟩ := by
  rw [serve, Gate.refuseAll_recording, Traced.bind_of_ok rfl]
  exact Traced.ext (List.append_nil _) rfl

/-- The lenient policy comes to the plan of the request. -/
lemma compile_recording_result (raw : Value) :
    (compile e a ⟨.lenient, .recording⟩ raw).result = (Request.ofValue raw).plan e a := by
  rw [(compile_alike _ raw).result, serve_recording]

/-- The lenient policy warns of every refusal, in order. -/
lemma compile_recording_warnings (raw : Value) :
    (compile e a ⟨.lenient, .recording⟩ raw).warnings =
      ((Request.ofValue raw).refusals e a).map Refusal.warning := by
  rw [(compile_alike _ raw).warnings, serve_recording, Traced.warnings, List.filterMap_map]
  exact congrFun List.filterMap_eq_map _

variable {e a}

/-- A plan joins what its fragments need, and nothing else. -/
lemma joins_eq {g : Gate} {raw : Value} {p : Plan} (h : (compile e a g raw).result = .ok p) :
    p.joins = Fragment.joins p.fragments := by
  rcases Request.plan_eq_ok (plan_of_compile_eq_ok e a h) with
    ⟨tokens, -, rfl⟩ | rfl | ⟨t, scope, -, -, -, rfl⟩
  · rfl
  · rfl
  · rfl

/-- Every fragment of a plan is granted to a token of the value, none of which is a custom
ordering. -/
lemma exists_granted {g : Gate} {raw : Value} {p : Plan} (h : (compile e a g raw).result = .ok p)
    {f : Fragment} (hf : f ∈ p.fragments) :
    (∀ t ∈ tokens raw, Field.isCustom t.field = false) ∧
      ∃ t ∈ tokens raw, granted? e a t = some f := by
  rcases Request.fragments_of_plan (plan_of_compile_eq_ok e a h) with hnil | ⟨ts, hq, hp⟩
  · rw [hnil] at hf
    cases hf
  · obtain ⟨rfl, hplain⟩ := Request.tokens_of_columns hq
    rw [hp] at hf
    exact ⟨hplain, List.mem_filterMap.mp hf⟩

/-- A violation under the strict policy is the first refusal. -/
lemma strict_eq_violation_iff {raw : Value} {sink : Sink} {cause : Violation}
    {message field : String} {critical : Bool} :
    (compile e a ⟨.strict, sink⟩ raw).result = .error (.violation cause message field critical) ↔
      ((Request.ofValue raw).refusals e a).head? = some ⟨cause, field, critical, message⟩ := by
  rw [compile_strict_result]
  rcases hr : (Request.ofValue raw).refusals e a with _ | ⟨r, rest⟩
  · constructor
    · intro h
      obtain ⟨-, _, hmissing⟩ := Request.plan_eq_error h
      cases hmissing
    · intro h
      cases h
  · obtain ⟨cause', field', critical', message'⟩ := r
    simp only [Refusal.failure, List.head?_cons, Except.error.injEq, Failure.violation.injEq,
      Option.some.injEq, Refusal.mk.injEq]
    tauto

end Compile

end QueryOrder
