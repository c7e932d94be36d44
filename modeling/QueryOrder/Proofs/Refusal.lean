/-
What is refused, and what becomes of it.

* `Refusal`: a violation with all that is reported of it, `Refusal.failure` under the
  strict policy and `Refusal.warning` under the lenient one;
* `Gate.refuse`, `Gate.refuseAll`: refusals handed to the gate one after the other;
* `ofColumn`, `ofScope`, `ofRelation`, `ofCombined`: the four refusals of the library;
* `violation_ofColumn` and its like: the library reports its violations with these
  refusals, so that none of its templates fails to be filled in;
* `refuseAll_strict`, `refuseAll_recording`: the strict policy stops at the first
  refusal without a warning, the lenient one warns of all of them.
-/
import QueryOrder.Compile.Dispatch
import QueryOrder.Compile.Fragments
import QueryOrder.Proofs.Template.Part
import QueryOrder.Proofs.Traced

namespace QueryOrder

open Template (Part filled written)

/-- A violation with all that is reported of it. -/
structure Refusal where
  cause : Violation
  field : String
  /-- Whether it discards the whole specification. -/
  critical : Bool
  message : String
deriving DecidableEq, Repr

namespace Refusal

/-- What a refusal is under the strict policy. -/
def failure (r : Refusal) : Failure :=
  .violation r.cause r.message r.field r.critical

/-- What a refusal is under the lenient policy. -/
def warning (r : Refusal) : String :=
  Gate.warning r.field r.critical

/-! ### The four refusals -/

/-- The message for a field outside the allow-list. -/
def columnParts : List Part :=
  [.text "detected a disallowed sortable column: ", .hole "field",
   .text ". Ensure you add it to the allowed columns with column_sortable_by('", .hole "field",
   .text "'). In lenient mode the invalid column is ignored and allowed columns are processed."]

/-- The message for a custom ordering outside the allow-list. -/
def scopeParts : List Part :=
  [.text "detected a disallowed sortable column: ", .hole "field",
   .text ". Ensure you add it to the allowed columns with column_sortable_by('", .hole "field",
   .text "'). In lenient mode the invalid column is ignored."]

/-- The message for a relation that the model lacks. -/
def relationParts : List Part :=
  [.text "relationship '", .hole "field", .text "' doesn't exist on model ", .hole "model",
   .text ". Check the relationship name in '", .hole "column", .text "'."]

/-- The message for a custom ordering beside other columns. -/
def combinedParts : List Part :=
  [.text "custom scope columns must be the only sort column, got '", .hole "field",
   .text ("'. In lenient mode the whole sort specification is ignored and no ordering " ++
     "is applied.")]

/-- A field outside the allow-list. -/
def ofColumn (field : String) : Refusal :=
  ⟨.disallowed, field, false, filled (fun _ => field) columnParts⟩

/-- A custom ordering outside the allow-list. -/
def ofScope (name : String) : Refusal :=
  ⟨.disallowed, name, false, filled (fun _ => name) scopeParts⟩

/-- What the holes of the message for a missing relation show. -/
def relationValue (model relation field : String) : String → String
  | "model" => model
  | "column" => field
  | _ => relation

/-- A field of a relation that the model lacks. -/
def ofRelation (model relation field : String) : Refusal :=
  ⟨.unknownRelation, relation, false, filled (relationValue model relation field) relationParts⟩

/-- A custom ordering beside other columns. -/
def ofCombined (spec : String) : Refusal :=
  ⟨.combined, spec, true, filled (fun _ => spec) combinedParts⟩

/-! ### The templates -/

lemma disallowedColumn_eq : Compile.disallowedColumn = written columnParts := by decide +kernel

lemma disallowedScope_eq : Compile.disallowedScope = written scopeParts := by decide +kernel

lemma unknownRelation_eq : Compile.unknownRelation = written relationParts := by decide +kernel

lemma combinedColumns_eq : Compile.combinedColumns = written combinedParts := by decide +kernel

end Refusal

/-! ### The gate -/

namespace Gate

/-- A refusal handed to the gate. -/
def refuse (g : Gate) (r : Refusal) : Traced Unit :=
  match g.policy with
  | .strict => .fail r.failure
  | .lenient => g.sink.warn r.warning

/-- Refusals handed to the gate one after the other. -/
def refuseAll (g : Gate) : List Refusal → Traced Unit
  | [] => pure ()
  | r :: rest => do
    g.refuse r
    refuseAll g rest

/-- A violation whose template is one of parts is refused with the message that the
template stands for. -/
lemma violation_eq_refuse (g : Gate) (cause : Violation) {template field : String}
    (critical : Bool) {context : List (String × Value)} {value : String → String}
    {parts : List Part} (htemplate : template = written parts)
    (hplain : ∀ p ∈ parts, p.isPlain = true)
    (hnames : ∀ name, .hole name ∈ parts →
      (putBy (· == ·) context "field" (.text field)).lookup name = some (.text (value name))) :
    g.violation cause template field critical context
      = g.refuse ⟨cause, field, critical, filled value parts⟩ := by
  rw [violation, enforce, refuse, htemplate, Template.fill_written hplain hnames]
  rcases g.policy with _ | _ <;> rfl

/-- The only hole of a message without a context is its field. -/
lemma lookup_field (field : String) {parts : List Part}
    (h : ∀ name, Part.hole name ∈ parts → name = "field") :
    ∀ name, Part.hole name ∈ parts →
      (putBy (· == ·) ([] : List (String × Value)) "field" (.text field)).lookup name
        = some (.text field) := by
  intro name hname
  rw [h name hname]
  rfl

variable (g : Gate)

lemma violation_ofColumn (field : String) :
    g.violation .disallowed Compile.disallowedColumn field false [] = g.refuse (.ofColumn field) :=
  g.violation_eq_refuse _ _ Refusal.disallowedColumn_eq (by decide +kernel)
    (lookup_field field (by simp [Refusal.columnParts]))

lemma violation_ofScope (name : String) :
    g.violation .disallowed Compile.disallowedScope name false [] = g.refuse (.ofScope name) :=
  g.violation_eq_refuse _ _ Refusal.disallowedScope_eq (by decide +kernel)
    (lookup_field name (by simp [Refusal.scopeParts]))

lemma violation_ofCombined (spec : String) :
    g.violation .combined Compile.combinedColumns spec true [] = g.refuse (.ofCombined spec) :=
  g.violation_eq_refuse _ _ Refusal.combinedColumns_eq (by decide +kernel)
    (lookup_field spec (by simp [Refusal.combinedParts]))

lemma violation_ofRelation (model relation field : String) :
    g.violation .unknownRelation Compile.unknownRelation relation false
        [("model", .text model), ("column", .text field)]
      = g.refuse (.ofRelation model relation field) := by
  refine g.violation_eq_refuse _ _ Refusal.unknownRelation_eq (by decide +kernel) ?_
  intro name hname
  simp only [Refusal.relationParts, List.mem_cons, Part.hole.injEq, List.not_mem_nil,
    reduceCtorEq, false_or, or_false] at hname
  rcases hname with rfl | rfl | rfl <;> rfl

/-! ### Several refusals -/

lemma refuseAll_singleton (r : Refusal) : g.refuseAll [r] = g.refuse r :=
  bind_pure_unit

/-- Two groups of refusals are handed to the gate one after the other. -/
lemma refuseAll_append (rs rs' : List Refusal) :
    g.refuseAll (rs ++ rs') = g.refuseAll rs >>= fun _ => g.refuseAll rs' := by
  induction rs with
  | nil => rw [refuseAll, pure_bind, List.nil_append]
  | cons r rs ih => rw [List.cons_append, refuseAll, refuseAll, ih, bind_assoc]

/-- The strict policy stops at the first refusal, without a warning. -/
lemma refuseAll_strict (sink : Sink) (rs : List Refusal) :
    refuseAll ⟨.strict, sink⟩ rs =
      match rs with
      | [] => pure ()
      | r :: _ => .fail r.failure := by
  cases rs with
  | nil => rfl
  | cons r rest => exact Traced.bind_of_error rfl _

/-- The lenient policy warns of all refusals. -/
lemma refuseAll_recording (rs : List Refusal) :
    refuseAll ⟨.lenient, .recording⟩ rs = ⟨rs.map fun r => .warning r.warning, .ok ()⟩ := by
  induction rs with
  | nil => rfl
  | cons r rest ih =>
      rw [refuseAll, ih]
      exact Traced.bind_of_ok rfl _

end Gate

end QueryOrder
