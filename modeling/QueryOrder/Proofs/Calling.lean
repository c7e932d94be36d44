/-
When a custom ordering is called, and with what.

A custom ordering is code from outside. It is called by nothing but a specification that
summons it, once, and what it makes of the statement is the outcome.

* `Plan.apply_calls`: a plan without a custom ordering calls nothing;
* `Registry.selectAll_of_entity`: without a statement, all rows of the model are sorted;
* `apply_calls_once`: a specification calls a custom ordering exactly if it summons an
  allowed one that there is, and then with the given statement and the requested direction,
  with nothing else done.
-/
import QueryOrder.Proofs.Application
import QueryOrder.Proofs.Summons

namespace QueryOrder

open Traced (Alike)

/-- A custom ordering from outside is called with the text of the direction. -/
lemma Scope.run_of_ne [Orderings] {scope : Scope} (h : scope ≠ .entryPoint) (s : Statement)
    (d : Direction) :
    scope.run s d = Orderings.run scope s (if d = .descending then "desc" else "asc") := by
  cases scope with
  | given serial label form => cases d <;> rfl
  | entryPoint => exact absurd rfl h

/-- A plan without a custom ordering calls nothing. -/
lemma Plan.apply_calls [Orderings] {e : Entity} {p : Plan} {s : Statement} (h : p.custom = none) :
    (p.apply e s).calls = [] := by
  by_cases hfragments : p.fragments = []
  · rw [apply_of_empty h hfragments]
    rfl
  · rw [(apply_of_fragments h hfragments).calls]
    rfl

namespace Compile

variable {e : Entity} {a : AllowList} {g : Gate} {raw : Value}

/-- A specification that calls a custom ordering has the call for its plan, and nothing
is heard of before. -/
lemma compile_of_calls {call : ScopeCall} (h : Calls e.toOwner a raw call) :
    Alike (compile e a g raw) (pure (.ofCall call)) := by
  obtain ⟨hrefusals, hplan⟩ := Request.plan_of_calls h
  have halike := compile_alike_of_nil (g := g) hrefusals
  rw [hplan] at halike
  exact halike

/-- A plan has a custom ordering only if the specification calls it. -/
lemma calls_of_compile {p : Plan} {call : ScopeCall} (h : (compile e a g raw).result = .ok p)
    (hcall : p.custom = some call) : Calls e.toOwner a raw call :=
  Request.calls_of_plan (plan_of_compile_eq_ok e a h) hcall

end Compile

namespace Registry

variable {r : Registry} {c : Compiler} {e : Entity}

/-- All rows of a model over a table are those of its table. -/
lemma selectAll_of_entity {model : String} (he : r.entity model = .ok e) :
    r.selectAll model = .ok (.all e.table) := by
  obtain ⟨m, hfind, hmapped, -, htable, -⟩ := entity_eq_ok_iff.mp he
  rw [selectAll, hfind, htable]
  exact if_pos hmapped

section Orderings

variable [Orderings]

/-- What a specification does when it calls a custom ordering. -/
lemma apply_of_calls (he : r.entity c.model = .ok e) {raw : Value} {call : ScopeCall}
    (h : Calls e.toOwner c.allowed raw call) (given : Option Statement) :
    Alike (r.apply c raw given) (call.run (given.getD (.all e.table))) := by
  rw [apply_of_entity he, compile_of_entity he]
  have hcall : (Plan.ofCall call).apply e (given.getD (.all e.table))
      = call.run (given.getD (.all e.table)) := Plan.apply_of_call rfl
  refine (Alike.bind (Compile.compile_of_calls h) fun p => Alike.refl _).trans ?_
  rw [pure_bind, hcall]
  exact Alike.refl _

/-- A specification that calls no custom ordering calls nothing. -/
lemma apply_calls_eq_nil (he : r.entity c.model = .ok e) {raw : Value}
    (h : ∀ call, ¬ Calls e.toOwner c.allowed raw call) (given : Option Statement) :
    (r.apply c raw given).calls = [] := by
  rw [apply_of_entity he, Traced.calls_bind, compile_of_entity he, Compile.compile_calls]
  split
  · next p hp =>
    have hcustom : p.custom = none :=
      Option.eq_none_iff_forall_ne_some.mpr fun call hcall =>
        h call (Compile.calls_of_compile hp hcall)
    rw [Plan.apply_calls hcustom]
    rfl
  · rfl

/-- To compile a specification calls nothing. To apply it calls one custom ordering at
most, and one exactly if the specification summons it by an allowed name that stands for
it. It is called once, with the given statement, or else with all rows of the model, and with the
text of the requested direction. Whatever it makes of these is the outcome, without a warning; only
the sort of the model, found in the place of a custom ordering, takes no statement and fails. -/
theorem apply_calls_once (he : r.entity c.model = .ok e) (raw : Value)
    (given : Option Statement) :
    let base := given.getD (.all e.table)
    let done := r.apply c raw given
    r.selectAll c.model = .ok (.all e.table) ∧
    (r.compile c raw).calls = [] ∧
    done.calls.length ≤ 1 ∧
    (done.calls ≠ [] ↔ ∃ call, Calls e.toOwner c.allowed raw call) ∧
    ∀ call, Calls e.toOwner c.allowed raw call →
      (r.compile c raw).result = .ok (.ofCall call) ∧
      done.calls = [(call.scope, call.direction, base)] ∧
      (call.scope ≠ .entryPoint → done.result =
        Orderings.run call.scope base (if call.direction = .descending then "desc" else "asc")) ∧
      (call.scope = .entryPoint → done.result = .error (.shape .tooManyArguments)) ∧
      done.warnings = [] := by
  intro base done
  have hcalls : ∀ call, Calls e.toOwner c.allowed raw call →
      done.calls = [(call.scope, call.direction, base)] :=
    fun call h => (apply_of_calls he h given).calls
  refine ⟨selectAll_of_entity he, ?_, ?_, ?_, ?_⟩
  · rw [compile_of_entity he]
    exact Compile.compile_calls
  · by_cases h : ∃ call, Calls e.toOwner c.allowed raw call
    · obtain ⟨call, hcall⟩ := h
      rw [hcalls call hcall]
      exact Nat.le_refl 1
    · rw [apply_calls_eq_nil he (fun call hcall => h ⟨call, hcall⟩) given]
      exact Nat.zero_le 1
  · constructor
    · intro h
      by_contra hnone
      exact h (apply_calls_eq_nil he (fun call hcall => hnone ⟨call, hcall⟩) given)
    · rintro ⟨call, hcall⟩
      rw [hcalls call hcall]
      exact List.cons_ne_nil _ _
  · intro call hcall
    have hrun := apply_of_calls he hcall given
    have hresult : done.result = call.scope.run base call.direction := hrun.result
    refine ⟨?_, hcalls call hcall, fun hgiven => ?_, fun hentry => ?_, hrun.warnings⟩
    · rw [compile_of_entity he]
      exact (Compile.compile_of_calls hcall).result
    · rw [hresult, Scope.run_of_ne hgiven]
    · rw [hresult, hentry]
      rfl

end Orderings

/-- A custom ordering that is registered for its name, beside a method of the model of that
name. It branches on the direction and on the statement, and what it hands back here is no
statement. Of another custom ordering only the method is there, which is called in its place. -/
theorem apply_calls_once_books :
    let _ : Orderings := {
      run := fun scope s d =>
        if scope.label = "registered" && d = "desc" && s.limit.isNone then .ok (.answer (.int 42))
        else .ok (.statement s.distinctRows) }
    let method : Scope := .given 1 "method" .method
    let book : Model := {
      name := "Book", title := "Book", parent := none, mapped := true, sortable := false
      table := "books", bases := [], columns := [⟨"id", none⟩], homes := [("id", "books")]
      members := [("id", .column ⟨"id", none⟩)]
      attributes := [("id", .column ⟨"id", none⟩), ("sorted_by_rank", .value (.scope method)),
        ("sorted_by_age", .value (.scope method))] }
    let r : Registry := [book]
    let registered : Scope := .given 2 "registered" .function
    let a : AllowList := ⟨["c_rank", "id", "c_age"], [("c_rank", registered)]⟩
    let c : Compiler := ⟨"Book", a, .strict, .recording⟩
    let raw := Value.text " c_rank : desc\n"
    let base := Statement.all (.plain "books" ["id"])
    (r.compile c raw).calls = [] ∧
      (r.apply c raw none).calls = [(registered, .descending, base)] ∧
      (r.apply c raw none).result = .ok (.answer (.int 42)) ∧
      (r.apply c raw (some (base.limitTo 1))).result =
        .ok (.statement (base.limitTo 1).distinctRows) ∧
      (r.apply c raw none).warnings = [] ∧
      (r.apply c (.text "c_age") none).calls = [(method, .ascending, base)] := by
  intro _ method book r registered a c raw base
  let e : Entity := ⟨⟨"Book", r.attributes "Book"⟩, .plain "books" ["id"], []⟩
  have he : r.entity c.model = .ok e := rfl
  have hsummons : Summons " c_rank : desc\n" "c_rank" .descending := by
    rw [summons_iff_split]
    decide +kernel
  have hcalls : Calls e.toOwner c.allowed raw ⟨"c_rank", registered, .descending⟩ :=
    ⟨⟨_, rfl, hsummons⟩, List.mem_cons_self, .registered rfl⟩
  have hanswers : Answers e.toOwner c.allowed "c_age" method :=
    Compile.resolve?_eq_some_iff.mp (by decide +kernel)
  have hinherited : Calls e.toOwner c.allowed (.text "c_age") ⟨"c_age", method, .ascending⟩ :=
    ⟨⟨_, rfl, summons_iff_split.mpr (by decide +kernel)⟩, by simp [c, a], hanswers⟩
  have hgiven : registered ≠ .entryPoint := by decide
  obtain ⟨-, hcompile, -, -, happly⟩ := apply_calls_once he raw none
  obtain ⟨-, hmade, hresult, -, hwarnings⟩ := happly _ hcalls
  obtain ⟨-, -, -, -, hlimited⟩ := apply_calls_once he raw (some (base.limitTo 1))
  obtain ⟨-, -, hother, -, -⟩ := hlimited _ hcalls
  obtain ⟨-, -, -, -, hmethod⟩ := apply_calls_once he (.text "c_age") none
  exact ⟨hcompile, hmade, hresult hgiven, hother hgiven, hwarnings, (hmethod _ hinherited).2.1⟩

end Registry

end QueryOrder
