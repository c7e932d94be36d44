/-
The two ways in which a custom ordering is recognised.

A specification may start as a custom ordering as a whole, and its tokens may name one.
The two readings fit together, so that nothing falls between them.

* `IsCombined`: a custom ordering stands beside other columns;
* `strict_combined_iff`, `lenient_combined_iff`: a specification is refused as a whole
  exactly if it is combined;
* `custom_of_compile`: what is called is all of the specification;
* `routes_fit`: a specification that starts as a custom ordering has one as its first
  token; it is refused as a whole exactly if it is combined; and one that is a custom
  ordering and nothing else is called by the name and in the direction of its token.
-/
import QueryOrder.Proofs.Request

namespace QueryOrder

/-- Whether a custom ordering stands beside other columns, which may be empty ones. -/
def IsCombined (spec : String) : Prop :=
  ',' ∈ spec.toList ∧ ∃ t ∈ Token.parse spec, Field.isCustom t.field = true

/-! ### Readings of a text -/

namespace Request

variable {e : Entity} {a : AllowList}

/-- A text asks for a custom ordering beside other columns exactly if it is combined. -/
lemma ofText_eq_combined_iff {spec s : String} :
    ofText spec = .combined s ↔ IsCombined spec ∧ s = Text.trimmed spec := by
  constructor
  · intro h
    rcases ofText_cases spec with ⟨-, hq⟩ | ⟨hcomma, hcustom, hq⟩ | ⟨t, -, -, -, hq⟩
    · rw [hq] at h
      cases h
    · rw [hq] at h
      exact ⟨⟨hcomma, hcustom⟩, (Request.combined.inj h).symm⟩
    · rw [hq] at h
      cases h
  · rintro ⟨⟨hcomma, t, ht, hcustom⟩, rfl⟩
    exact ofText_of_comma hcomma ht hcustom

/-- A text asks for a custom ordering on its own only if that is all of it. -/
lemma ofText_eq_custom {spec : String} {t : Token} (h : ofText spec = .custom t) :
    ',' ∉ spec.toList ∧ Token.parse spec = [t] ∧ Field.isCustom t.field = true := by
  rcases ofText_cases spec with ⟨-, hq⟩ | ⟨-, -, hq⟩ | ⟨t', hcomma, hparse, hcustom, hq⟩
  · rw [hq] at h
    cases h
  · rw [hq] at h
    cases h
  · rw [hq] at h
    obtain rfl : t' = t := Request.custom.inj h
    exact ⟨hcomma, hparse, hcustom⟩

/-- Only a custom ordering on its own is called, and it is called as it is asked for. -/
lemma custom_of_plan {q : Request} {p : Plan} {call : ScopeCall} (h : q.plan e a = .ok p)
    (hcall : p.custom = some call) :
    q = .custom ⟨call.name, call.direction⟩ ∧ call.name ∈ a.fields ∧
      Compile.resolve e.toOwner a call.name = .ok call.scope := by
  rcases plan_eq_ok h with ⟨tokens, -, rfl⟩ | rfl | ⟨t, scope, hq, hallowed, hscope, rfl⟩
  · cases hcall
  · cases hcall
  · obtain rfl : (⟨t.field, scope, t.direction⟩ : ScopeCall) = call := Option.some.inj hcall
    exact ⟨hq, hallowed, hscope⟩

end Request

/-- The warning that all columns are ignored is never one that a single column is. -/
lemma Gate.critical_of_warning_eq {field field' : String} {critical : Bool}
    (h : warning field critical = warning field' true) : critical = true := by
  cases critical with
  | true => rfl
  | false =>
      rw [warning, warning, ← String.toList_inj] at h
      simp at h

namespace Compile

variable {e : Entity} {a : AllowList} {raw : Value} {spec : String}

/-! ### Specifications that are refused as a whole -/

/-- A specification is refused as a whole under the strict policy exactly if it is
combined. -/
lemma strict_combined_iff (hraw : raw.text? = some spec) {sink : Sink} :
    (∃ cause message field critical,
        (compile e a ⟨.strict, sink⟩ raw).result =
          .error (.violation cause message field critical) ∧
        (cause = .combined ∨ critical = true)) ↔ IsCombined spec := by
  constructor
  · rintro ⟨cause, message, field, critical, h, hwhole⟩
    have hmem := List.mem_of_mem_head? (Option.mem_def.mpr (strict_eq_violation_iff.mp h))
    obtain ⟨s, hs, -⟩ := Request.eq_combined_of_refusal hmem hwhole
    rw [Request.ofValue_of_text hraw] at hs
    exact (Request.ofText_eq_combined_iff.mp hs).1
  · intro h
    refine ⟨.combined, (Refusal.ofCombined (Text.trimmed spec)).message, Text.trimmed spec, true,
      strict_eq_violation_iff.mpr ?_, Or.inl rfl⟩
    rw [Request.ofValue_of_text hraw, Request.ofText_eq_combined_iff.mpr ⟨h, rfl⟩]
    rfl

/-- It is warned under the lenient policy that all columns are ignored exactly if a
specification is combined. -/
lemma lenient_combined_iff (hraw : raw.text? = some spec) :
    (∃ field, Gate.warning field true ∈ (compile e a ⟨.lenient, .recording⟩ raw).warnings) ↔
      IsCombined spec := by
  rw [compile_recording_warnings, Request.ofValue_of_text hraw]
  constructor
  · rintro ⟨field, h⟩
    obtain ⟨r, hr, hwarning⟩ := List.mem_map.mp h
    have hcritical := Gate.critical_of_warning_eq hwarning
    obtain ⟨s, hs, -⟩ := Request.eq_combined_of_refusal hr (Or.inr hcritical)
    exact (Request.ofText_eq_combined_iff.mp hs).1
  · intro h
    rw [Request.ofText_eq_combined_iff.mpr ⟨h, rfl⟩]
    exact ⟨Text.trimmed spec, List.mem_cons_self⟩

/-- A combined specification is refused as a whole, and nothing else is reported of it. -/
lemma compile_combined (hraw : raw.text? = some spec) (h : IsCombined spec) (sink : Sink) :
    (compile e a ⟨.strict, sink⟩ raw).result =
        .error (.violation .combined (Refusal.ofCombined (Text.trimmed spec)).message
          (Text.trimmed spec) true) ∧
      (compile e a ⟨.lenient, .recording⟩ raw).result = .ok .empty ∧
      (compile e a ⟨.lenient, .recording⟩ raw).warnings =
        ["ignoring all columns due to " ++ Text.trimmed spec] := by
  rw [compile_strict_result, compile_recording_result, compile_recording_warnings,
    Request.ofValue_of_text hraw, Request.ofText_eq_combined_iff.mpr ⟨h, rfl⟩]
  exact ⟨rfl, rfl, rfl⟩

/-! ### Specifications that are custom orderings -/

/-- A custom ordering that is all of a specification is called as its token says, if it
is allowed, and refused under this name if it is not. -/
lemma compile_custom (hraw : raw.text? = some spec) {t : Token}
    (ht : Request.ofText spec = .custom t) (sink : Sink) :
    (compile e a ⟨.strict, sink⟩ raw).result =
        (if t.field ∈ a.fields then
          (resolve e.toOwner a t.field).map fun scope => .ofCall ⟨t.field, scope, t.direction⟩
        else .error (.violation .disallowed (Refusal.ofScope t.field).message t.field false)) ∧
      (compile e a ⟨.lenient, .recording⟩ raw).result =
        (if t.field ∈ a.fields then
          (resolve e.toOwner a t.field).map fun scope => .ofCall ⟨t.field, scope, t.direction⟩
        else .ok .empty) ∧
      (compile e a ⟨.lenient, .recording⟩ raw).warnings =
        (if t.field ∈ a.fields then [] else ["ignoring disallowed column: " ++ t.field]) := by
  rw [compile_strict_result, compile_recording_result, compile_recording_warnings,
    Request.ofValue_of_text hraw, ht, Request.refusals, Request.plan]
  by_cases hallowed : a.allows t.field = true
  · have hfield := AllowList.allows_iff.mp hallowed
    rw [if_pos hallowed, if_pos hallowed, if_pos hfield, if_pos hfield, if_pos hfield]
    rcases resolve e.toOwner a t.field with failure | scope <;> exact ⟨rfl, rfl, rfl⟩
  · have hfield : t.field ∉ a.fields := fun h => hallowed (AllowList.allows_iff.mpr h)
    rw [if_neg hallowed, if_neg hallowed, if_neg hfield, if_neg hfield, if_neg hfield]
    exact ⟨rfl, rfl, rfl⟩

/-- Only a custom ordering that is all of a specification is called, as its token says. -/
lemma custom_of_compile (hraw : raw.text? = some spec) {g : Gate} {p : Plan} {call : ScopeCall}
    (h : (compile e a g raw).result = .ok p) (hcall : p.custom = some call) :
    ',' ∉ spec.toList ∧ Token.parse spec = [⟨call.name, call.direction⟩] ∧
      Field.isCustom call.name = true ∧ call.name ∈ a.fields ∧
      resolve e.toOwner a call.name = .ok call.scope := by
  obtain ⟨hq, hallowed, hscope⟩ := Request.custom_of_plan (plan_of_compile_eq_ok e a h) hcall
  rw [Request.ofValue_of_text hraw] at hq
  obtain ⟨hcomma, hparse, hcustom⟩ := Request.ofText_eq_custom hq
  exact ⟨hcomma, hparse, hcustom, hallowed, hscope⟩

/-! ### The two ways together -/

/-- A specification that starts as a custom ordering has one as its first token. It is
refused as a whole, and for nothing else, exactly if it has a comma and a custom
ordering among its tokens. Without a comma a custom ordering is the only token, the
whole is cut into the field and the direction of this token, and these decide what is
called. Nothing else is ever called. -/
theorem routes_fit (hraw : raw.text? = some spec) (sink : Sink) :
    let strict := compile e a ⟨.strict, sink⟩ raw
    let lenient := compile e a ⟨.lenient, .recording⟩ raw
    let whole := Token.split (Text.trimmed spec).toList
    (Field.isCustom (Text.trimmed spec) = true →
      ∃ t rest, Token.parse spec = t :: rest ∧ Field.isCustom t.field = true) ∧
    ((∃ cause message field critical,
        strict.result = .error (.violation cause message field critical) ∧
        (cause = .combined ∨ critical = true)) ↔ IsCombined spec) ∧
    ((∃ field, "ignoring all columns due to " ++ field ∈ lenient.warnings) ↔ IsCombined spec) ∧
    (IsCombined spec →
      (∃ message, strict.result =
        .error (.violation .combined message (Text.trimmed spec) true)) ∧
      lenient.result = .ok .empty ∧
      lenient.warnings = ["ignoring all columns due to " ++ Text.trimmed spec]) ∧
    (',' ∉ spec.toList → ∀ t ∈ Token.parse spec, Field.isCustom t.field = true →
      Token.parse spec = [t] ∧ whole.1 = t.field ∧ Direction.ofText whole.2 = t.direction ∧
      (t.field ∈ a.fields → lenient.warnings = [] ∧ strict.result = lenient.result ∧
        lenient.result = (resolve e.toOwner a t.field).map fun scope =>
          .ofCall ⟨t.field, scope, t.direction⟩) ∧
      (t.field ∉ a.fields →
        (∃ message, strict.result = .error (.violation .disallowed message t.field false)) ∧
        lenient.result = .ok .empty ∧
        lenient.warnings = ["ignoring disallowed column: " ++ t.field])) ∧
    (∀ g p call, (compile e a g raw).result = .ok p → p.custom = some call →
      ',' ∉ spec.toList ∧ Token.parse spec = [⟨call.name, call.direction⟩] ∧
      Field.isCustom call.name = true ∧ call.name ∈ a.fields ∧
      resolve e.toOwner a call.name = .ok call.scope) := by
  intro strict lenient whole
  refine ⟨Token.parse_eq_cons_of_isCustom, strict_combined_iff hraw, lenient_combined_iff hraw,
    ?_, ?_, fun g p call => custom_of_compile hraw⟩
  · intro h
    obtain ⟨hstrict, hlenient, hwarnings⟩ := compile_combined (e := e) (a := a) hraw h sink
    exact ⟨⟨_, hstrict⟩, hlenient, hwarnings⟩
  · intro hcomma t ht hcustom
    obtain ⟨hparse, hrequest⟩ := Request.ofText_of_no_comma hcomma ht hcustom
    obtain ⟨hname, hdirection⟩ := split_trimmed hcomma ht
    obtain ⟨hstrict, hlenient, hwarnings⟩ := compile_custom (e := e) (a := a) hraw hrequest sink
    refine ⟨hparse, hname, hdirection, fun hallowed => ?_, fun hdisallowed => ?_⟩
    · rw [if_pos hallowed] at hstrict hlenient hwarnings
      exact ⟨hwarnings, hstrict.trans hlenient.symm, hlenient⟩
    · rw [if_neg hdisallowed] at hstrict hlenient hwarnings
      exact ⟨⟨_, hstrict⟩, hlenient, hwarnings⟩

/-- An empty column and an unknown relation beside a custom ordering, and a custom ordering
among blank characters. -/
theorem routes_fit_books :
    let e : Entity := ⟨⟨"Book", []⟩, .plain "books" ["id", "title"], []⟩
    let scope : Scope := .given 1 "by_title" .function
    let a : AllowList := ⟨["c_title", "editor__name"], [("c_title", scope)]⟩
    (∃ message, (compile e a ⟨.strict, .absent⟩ (.text " ,editor__name,c_title ")).result =
      .error (.violation .combined message ",editor__name,c_title" true)) ∧
    (compile e a ⟨.lenient, .recording⟩ (.text " ,editor__name,c_title ")).warnings =
      ["ignoring all columns due to ,editor__name,c_title"] ∧
    Token.parse " c_title : desc" = [⟨"c_title", .descending⟩] ∧
    (compile e a ⟨.strict, .absent⟩ (.text " c_title : desc")).result =
      .ok (.ofCall ⟨"c_title", scope, .descending⟩) := by
  intro e scope a
  have hcombined : IsCombined " ,editor__name,c_title " :=
    ⟨by decide, ⟨"c_title", .ascending⟩, by decide +kernel, by decide⟩
  have hcustom : ⟨"c_title", .descending⟩ ∈ Token.parse " c_title : desc" := by decide +kernel
  obtain ⟨-, -, -, hwhole, -⟩ := @routes_fit e a (.text _) _ rfl .absent
  obtain ⟨-, -, -, -, hcall, -⟩ := @routes_fit e a (.text _) _ rfl .absent
  obtain ⟨hstrict, -, hwarnings⟩ := hwhole hcombined
  obtain ⟨hparse, -, -, hallowed, -⟩ := hcall (by decide) _ hcustom (by decide)
  obtain ⟨-, hsame, hplan⟩ := hallowed (by decide)
  exact ⟨hstrict, hwarnings, hparse, hsame.trans hplan⟩

end Compile

end QueryOrder
