/-
Plans applied to statements.

* `Traced.calls_bind`, `Traced.result_bind_eq_ok_iff`, `Traced.result_bind_eq_error_iff`:
  the calls and the results of steps that are done one after the other;
* `joinAll_eq_ok_iff`, `exists_of_joinAll_eq_error`: joins are added in order, and only
  a relation that cannot be joined stops them;
* `Plan.apply_of_call`, `Plan.apply_of_empty`, `Plan.apply_of_fragments`: the three things
  that a plan does to a statement;
* `Compile.compile_calls`: to compile a specification calls nothing;
* `Compile.compile_of_granted`: a specification of one granted token compiles to its term;
* `Compile.hasRelation_of_mem_joins`, `Compile.joins_eq_nil`: a plan joins relations of
  the model only, and none without a term of the order;
* `Registry.compile_of_entity`, `Registry.apply_of_entity`: what a compiler does for a
  model over a table.
-/
import Mathlib.Data.List.Forall2
import QueryOrder.Proofs.Contribution
import QueryOrder.Proofs.Model.Relation

namespace QueryOrder

namespace Traced

variable {α β : Type}

/-! ### Steps one after the other -/

/-- A success that is taken over is its value. -/
lemma liftM_ok_bind (a : α) (f : α → Traced β) :
    ((liftM (Except.ok a : Except Failure α) : Traced α) >>= f) = f a :=
  pure_bind a f

/-- The calls of a step come before those of the next one. -/
lemma calls_bind (x : Traced α) (f : α → Traced β) :
    (x >>= f).calls = x.calls ++ match x.result with
      | .ok a => (f a).calls
      | .error _ => [] := by
  rcases h : x.result with failure | a
  · rw [bind_of_error h]
    exact (List.append_nil _).symm
  · rw [bind_of_ok h]
    exact List.filterMap_append

/-- Two steps succeed together exactly if the first one does and then the second. -/
lemma result_bind_eq_ok_iff {x : Traced α} {f : α → Traced β} {b : β} :
    (x >>= f).result = .ok b ↔ ∃ a, x.result = .ok a ∧ (f a).result = .ok b := by
  rcases h : x.result with failure | a
  · rw [bind_of_error h]
    simp
  · rw [bind_of_ok h]
    simp

/-- Two steps fail together exactly if the first one does, or else the second. -/
lemma result_bind_eq_error_iff {x : Traced α} {f : α → Traced β} {failure : Failure} :
    (x >>= f).result = .error failure ↔ x.result = .error failure ∨
      ∃ a, x.result = .ok a ∧ (f a).result = .error failure := by
  rcases h : x.result with failure' | a
  · rw [bind_of_error h]
    simp
  · rw [bind_of_ok h]
    simp

end Traced

open Traced (Alike)

/-! ### Joins -/

/-- Joins are added after the ones already there, in the order of their relations. -/
lemma joinAll_eq_ok_iff {e : Entity} {names : List String} {s t : Statement} :
    joinAll e names s = .ok t ↔
      ∃ js, List.Forall₂ (fun name j => e.joinOf name = .ok j) names js ∧
        t = { s with joins := s.joins ++ js } := by
  induction names generalizing s with
  | nil =>
      constructor
      · intro h
        exact ⟨[], List.Forall₂.nil, by simpa [joinAll, eq_comm] using h⟩
      · rintro ⟨js, hjs, rfl⟩
        cases hjs
        simp [joinAll]
  | cons name rest ih =>
      rw [joinAll, bind_eq_ok_iff]
      constructor
      · rintro ⟨j, hj, h⟩
        obtain ⟨js, hjs, rfl⟩ := ih.mp h
        exact ⟨j :: js, List.Forall₂.cons hj hjs, by simp [Statement.join]⟩
      · rintro ⟨js, hjs, rfl⟩
        cases hjs with
        | @cons _ j _ js' hj hrest =>
            exact ⟨j, hj, ih.mpr ⟨js', hrest, by simp [Statement.join]⟩⟩

/-- Only a relation that cannot be joined keeps the joins from being added. -/
lemma exists_of_joinAll_eq_error {e : Entity} {names : List String} {s : Statement}
    {failure : Failure} (h : joinAll e names s = .error failure) :
    ∃ name ∈ names, e.joinOf name = .error failure := by
  induction names generalizing s with
  | nil => cases h
  | cons name rest ih =>
      rw [joinAll] at h
      rcases hname : e.joinOf name with failure' | j
      · rw [hname] at h
        exact ⟨name, List.mem_cons_self, Except.error.inj h ▸ hname⟩
      · rw [hname] at h
        obtain ⟨other, hmem, hother⟩ := ih h
        exact ⟨other, List.mem_cons_of_mem name hmem, hother⟩

/-! ### The three effects of a plan -/

namespace Plan

variable [Orderings] {e : Entity} {p : Plan} {s : Statement}

/-- A plan with a custom ordering calls it. -/
lemma apply_of_call {call : ScopeCall} (h : p.custom = some call) :
    p.apply e s = call.run s := by
  rw [apply, h]

/-- A plan without a term of the order hands the statement back. -/
lemma apply_of_empty (hcustom : p.custom = none) (hfragments : p.fragments = []) :
    p.apply e s = pure .same := by
  have hempty : p.isEmpty = true := by simp [isEmpty, hcustom, hfragments]
  rw [apply, hcustom]
  simp only [hempty, if_true]

/-- A plan with terms of the order joins its relations and replaces the order. -/
lemma apply_of_fragments (hcustom : p.custom = none) (hfragments : p.fragments ≠ []) :
    Alike (p.apply e s) (.ofExcept
      ((joinAll e p.joins s).map fun t => Reply.statement (t.orderBy (.text p.orderBy)))) := by
  have hempty : p.isEmpty = false := by simp [isEmpty, hfragments]
  have hjoined : Alike
      ((liftM (joinAll e p.joins s) : Traced Statement) >>= fun t =>
        pure (Reply.statement (t.orderBy (.text p.orderBy))))
      (.ofExcept ((joinAll e p.joins s).map fun t =>
        Reply.statement (t.orderBy (.text p.orderBy)))) := by
    rcases joinAll e p.joins s with failure | t <;> exact Alike.refl _
  rw [apply, hcustom]
  simp only [hempty, Bool.false_eq_true, if_false]
  split
  · exact (Traced.alike_emit rfl _).trans hjoined
  · exact hjoined

end Plan

/-! ### The plan of a specification -/

namespace Gate

/-- To refuse calls nothing. -/
lemma refuse_calls (g : Gate) (r : Refusal) : (g.refuse r).calls = [] := by
  obtain ⟨policy, sink⟩ := g
  cases policy <;> cases sink <;> rfl

/-- Nor does it to refuse several times. -/
lemma refuseAll_calls (g : Gate) (rs : List Refusal) : (g.refuseAll rs).calls = [] := by
  induction rs with
  | nil => rfl
  | cons r rest ih =>
      rw [refuseAll, Traced.calls_bind, g.refuse_calls]
      split
      · exact ih
      · rfl

end Gate

namespace Compile

variable {e : Entity} {a : AllowList} {g : Gate} {raw : Value} {p : Plan}

/-- To compile a specification calls nothing. -/
lemma compile_calls : (compile e a g raw).calls = [] := by
  rw [(compile_alike g raw).calls, serve, Traced.calls_bind, g.refuseAll_calls]
  split <;> rfl

/-- When nothing is refused, to compile a specification is to have its plan. -/
lemma compile_alike_of_nil (h : (Request.ofValue raw).refusals e a = []) :
    Alike (compile e a g raw) (.ofExcept ((Request.ofValue raw).plan e a)) := by
  have hserve := compile_alike (e := e) (a := a) g raw
  rw [serve, h, Gate.refuseAll, pure_bind] at hserve
  exact hserve

/-- A specification that is one granted token compiles to the term of it, and nothing is
refused. -/
lemma compile_of_granted {spec : String} (hraw : raw.text? = some spec) {t : Token}
    (hparse : Token.parse spec = [t]) (hplain : Field.isCustom t.field = false) {f : Fragment}
    (hruling : ruling e a t = .ok f) (g : Gate) :
    (compile e a g raw).result = .ok (.ofFragments [f]) ∧ (compile e a g raw).warnings = [] := by
  have hrequest : Request.ofValue raw = .columns [t] := by
    rw [← hparse]
    refine Request.ofValue_of_plain hraw fun u hu => ?_
    obtain rfl : u = t := List.mem_singleton.mp (hparse ▸ hu)
    exact hplain
  have hrefusals : (Request.ofValue raw).refusals e a = [] := by
    rw [hrequest, Request.refusals, List.filterMap_cons, refused?, hruling]
    rfl
  have hplan : (Request.ofValue raw).plan e a = .ok (.ofFragments [f]) := by
    rw [hrequest, Request.plan, List.filterMap_cons, granted?, hruling]
    rfl
  have halike := compile_alike_of_nil (g := g) hrefusals
  rw [hplan] at halike
  exact ⟨halike.result, halike.warnings⟩

/-- Only relations of the model are joined. -/
lemma hasRelation_of_mem_joins (h : (compile e a g raw).result = .ok p) {name : String}
    (hname : name ∈ p.joins) : e.hasRelation name = true := by
  rw [joins_eq h] at hname
  obtain ⟨-, f, hf, hjoin⟩ := Fragment.mem_joins_iff.mp hname
  rcases fragment_cases h hf with ⟨field, d, rfl⟩ | ⟨relation, column, d, hsome, rfl⟩
  · cases hjoin
  · rwa [← Option.some.inj hjoin]

/-- Without a term of the order nothing is joined. -/
lemma joins_eq_nil (h : (compile e a g raw).result = .ok p) (hfragments : p.fragments = []) :
    p.joins = [] := by
  rw [joins_eq h, hfragments]
  rfl

end Compile

/-! ### Models over a table -/

namespace Registry

variable {r : Registry} {c : Compiler} {e : Entity}

/-- The plan of a compiler is that for the model as it stands. -/
lemma compile_of_entity (he : r.entity c.model = .ok e) (raw : Value) :
    r.compile c raw = Compile.compile e c.allowed c.gate raw := by
  rw [compile, he]
  exact Traced.liftM_ok_bind e _

/-- A specification is applied to the given statement, or else to all rows of the
model. -/
lemma apply_of_entity [Orderings] (he : r.entity c.model = .ok e) (raw : Value)
    (given : Option Statement) :
    r.apply c raw given =
      r.compile c raw >>= fun p => p.apply e (given.getD (.all e.table)) := by
  rw [compile_of_entity he, apply, he]
  exact Traced.liftM_ok_bind e _

end Registry

end QueryOrder
