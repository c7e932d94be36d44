/-
Sorts of a model that follow one another.

Each sort starts from the statement that the one before it came to. What a statement
selects is never touched, joins pile up, and only the last order counts.

* `Sorting`: the ways to sort a statement, each with its plan (`Sorting.apply_eq`);
* `Sorted`: what plans make of a statement, one after the other;
* `sorted_of_apply`: what one sort makes of it;
* `Sorted.append`: what sorts make of it that follow one another;
* `Run.sorted`: what all sorts of a run make of it.
-/
import QueryOrder.Proofs.Application
import QueryOrder.Scope.Act

namespace QueryOrder

/-! ### Ways to sort -/

/-- A way to sort a statement over a model. -/
inductive Sorting where
  /-- By a compiler with an allow-list of its own. -/
  | compiled (allowed : AllowList) (gate : Gate) (raw : Value)
  /-- By a compiler that is made for it. -/
  | direct (raw sortable : Value) (gate : Gate)
  /-- By the sort that a sortable model offers. -/
  | offered (raw : Value) (gate : Gate)
  /-- By the parameter of a request. -/
  | requested (parameters : Parameters) (key : String) (gate : Gate)

namespace Registry

variable {r : Registry} {model : String}

/-- A compiler is one for its model. -/
lemma model_of_compiler {sortable : Value} {g : Gate} {c : Compiler}
    (h : r.compiler model sortable g = .ok c) : c.model = model := by
  rw [compiler] at h
  obtain ⟨m, -, h⟩ := bind_eq_ok_iff.mp h
  obtain ⟨a, -, h⟩ := bind_eq_ok_iff.mp h
  obtain ⟨e, -, h⟩ := bind_eq_ok_iff.mp h
  rw [← Except.ok.inj h]

end Registry

namespace Sorting

/-- A statement sorted. -/
def apply [Orderings] (r : Registry) (model : String) (s : Statement) : Sorting → Traced Reply
  | compiled allowed gate raw => r.apply ⟨model, allowed, gate⟩ raw (some s)
  | direct raw sortable gate => r.sort model raw sortable gate (some s)
  | offered raw gate => r.sortModel model raw gate (some s)
  | requested parameters key gate => r.sortByParameter model parameters key gate (some s)

/-- The plan of a sort by a compiler that is made for it. -/
def planOf (r : Registry) (model : String) (raw sortable : Value) (gate : Gate) :
    Traced Plan := do
  let c ← r.compiler model sortable gate
  r.compile c raw

/-- The plan of a sort. -/
def plan (r : Registry) (model : String) : Sorting → Traced Plan
  | compiled allowed gate raw => r.compile ⟨model, allowed, gate⟩ raw
  | direct raw sortable gate => planOf r model raw sortable gate
  | offered raw gate => do
    r.checkEntry model .sort
    planOf r model raw (r.declaredValue model) gate
  | requested parameters key gate => do
    let raw ← parameters.sortText key
    planOf r model (raw.getD .null) .null gate

variable {r : Registry} {model : String} {e : Entity}

/-- A sort by a compiler that is made for it applies its plan. -/
lemma sort_eq [Orderings] (he : r.entity model = .ok e) (raw sortable : Value) (g : Gate)
    (s : Statement) :
    r.sort model raw sortable g (some s)
      = planOf r model raw sortable g >>= fun p => p.apply e s := by
  rw [Registry.sort, planOf]
  rcases hc : r.compiler model sortable g with failure | c
  · rfl
  · have hmodel : c.model = model := Registry.model_of_compiler hc
    have happly : r.apply c raw (some s) = r.compile c raw >>= fun p => p.apply e s :=
      Registry.apply_of_entity (hmodel ▸ he) raw (some s)
    rw [Traced.liftM_ok_bind, Traced.liftM_ok_bind, happly]

/-- Every sort applies its plan. -/
lemma apply_eq [Orderings] (he : r.entity model = .ok e) (x : Sorting) (s : Statement) :
    x.apply r model s = x.plan r model >>= fun p => p.apply e s := by
  cases x with
  | compiled allowed gate raw =>
      exact Registry.apply_of_entity (c := ⟨model, allowed, gate⟩) he raw (some s)
  | direct raw sortable gate => exact sort_eq he raw sortable gate s
  | offered raw gate =>
      rw [apply, plan, Registry.sortModel, Traced.bind_assoc]
      simp only [sort_eq he]
  | requested parameters key gate =>
      rw [apply, plan, Registry.sortByParameter, Traced.bind_assoc]
      simp only [sort_eq he]

/-- The plan of a sort is one of some specification. -/
lemma exists_compile (he : r.entity model = .ok e) {x : Sorting} {p : Plan}
    (h : (x.plan r model).result = .ok p) :
    ∃ a g raw, (Compile.compile e a g raw).result = .ok p := by
  have hmade : ∀ {raw sortable g}, (planOf r model raw sortable g).result = .ok p →
      ∃ a g raw, (Compile.compile e a g raw).result = .ok p := by
    intro raw sortable g hplan
    obtain ⟨c, hc, hcompile⟩ := Traced.result_bind_eq_ok_iff.mp hplan
    have hmodel : c.model = model := Registry.model_of_compiler hc
    rw [Registry.compile_of_entity (hmodel ▸ he)] at hcompile
    exact ⟨_, _, _, hcompile⟩
  cases x with
  | compiled allowed gate raw =>
      rw [plan, Registry.compile_of_entity (c := ⟨model, allowed, gate⟩) he] at h
      exact ⟨_, _, _, h⟩
  | direct raw sortable gate => exact hmade h
  | offered raw gate =>
      obtain ⟨-, -, hplan⟩ := Traced.result_bind_eq_ok_iff.mp h
      exact hmade hplan
  | requested parameters key gate =>
      obtain ⟨raw, -, hplan⟩ := Traced.result_bind_eq_ok_iff.mp h
      exact hmade hplan

end Sorting

/-! ### What plans make of a statement -/

/-- What plans make of a statement when they are applied one after the other: only their
joins are added to it, and the last of them that has a term of the order replaces the
order. -/
structure Sorted (e : Entity) (plans : List Plan) (s t : Statement) : Prop where
  table : t.table = s.table
  distinct : t.distinct = s.distinct
  filters : t.filters = s.filters
  limit : t.limit = s.limit
  joins : ∃ js, List.Forall₂ (fun name j => e.joinOf name = .ok j) (plans.flatMap Plan.joins) js ∧
    t.joins = s.joins ++ js
  order : t.order =
    ((plans.filter fun p => !p.fragments.isEmpty).getLast?.map fun p =>
      [OrderTerm.text p.orderBy]).getD s.order

namespace Sorted

variable {e : Entity} {s t u : Statement}

/-- Without a plan a statement stays as it is. -/
lemma nil (s : Statement) : Sorted e [] s s :=
  ⟨rfl, rfl, rfl, rfl, ⟨[], List.Forall₂.nil, (List.append_nil _).symm⟩, rfl⟩

/-- A plan without a term of the order leaves a statement as it is. -/
lemma of_empty {p : Plan} (hjoins : p.joins = []) (hfragments : p.fragments = []) :
    Sorted e [p] s s := by
  refine ⟨rfl, rfl, rfl, rfl, ⟨[], ?_, (List.append_nil _).symm⟩, ?_⟩
  · simp [hjoins]
  · simp [hfragments]

/-- A plan with terms of the order joins its relations and replaces the order. -/
lemma of_joinAll {p : Plan} (hfragments : p.fragments ≠ []) (h : joinAll e p.joins s = .ok t) :
    Sorted e [p] s (t.orderBy (.text p.orderBy)) := by
  obtain ⟨js, hjs, rfl⟩ := joinAll_eq_ok_iff.mp h
  refine ⟨rfl, rfl, rfl, rfl, ⟨js, ?_, rfl⟩, ?_⟩
  · simpa using hjs
  · have hkept : [p].filter (fun p => !p.fragments.isEmpty) = [p] := by simp [hfragments]
    rw [hkept]
    rfl

/-- What plans make of a statement that others have made something of. -/
lemma append {plans plans' : List Plan} (h : Sorted e plans s t) (h' : Sorted e plans' t u) :
    Sorted e (plans ++ plans') s u := by
  obtain ⟨js, hjs, hjoins⟩ := h.joins
  obtain ⟨js', hjs', hjoins'⟩ := h'.joins
  refine ⟨h'.table.trans h.table, h'.distinct.trans h.distinct, h'.filters.trans h.filters,
    h'.limit.trans h.limit, ⟨js ++ js', ?_, ?_⟩, ?_⟩
  · rw [List.flatMap_append]
    exact List.rel_append hjs hjs'
  · rw [hjoins', hjoins, List.append_assoc]
  · -- an order of the later plans counts before one of the earlier
    rw [h'.order, h.order, List.filter_append, List.getLast?_append]
    cases (plans'.filter fun p => !p.fragments.isEmpty).getLast? <;> rfl

/-- The relations of the plans are joined under their own names. -/
lemma names {r : Registry} {model : String} {plans : List Plan} (hr : r.Declared)
    (he : r.entity model = .ok e) (h : Sorted e plans s t) :
    t.joins.map Join.name = s.joins.map Join.name ++ plans.flatMap Plan.joins := by
  obtain ⟨js, hjs, hjoins⟩ := h.joins
  have hnames : js.map Join.name = plans.flatMap Plan.joins := by
    rw [← List.forall₂_eq_eq_eq, List.forall₂_map_left_iff]
    exact hjs.flip.imp fun j name hj => hr.name_of_joinOf he hj
  rw [hjoins, List.map_append, hnames]

end Sorted

/-! ### Runs -/

/-- Sorts that follow one another, each with what it hands back. None of them fails or calls
a custom ordering, and each starts from the statement that the one before it came to. -/
inductive Run [Orderings] (r : Registry) (model : String) :
    Statement → List (Sorting × Reply) → Statement → Prop
  | nil (s : Statement) : Run r model s [] s
  | cons {s t u : Statement} {x : Sorting} {reply : Reply} {rest : List (Sorting × Reply)}
      (hresult : (x.apply r model s).result = .ok reply) (hcalls : (x.apply r model s).calls = [])
      (hnext : reply.statement? s = some t) (hrest : Run r model t rest u) :
      Run r model s ((x, reply) :: rest) u

/-- What a sort hands back goes with its plan: without a term of the order it is the very
statement that was given, and otherwise a new one. -/
structure Fits (r : Registry) (model : String) (done : Sorting × Reply) (p : Plan) : Prop where
  plan : (done.1.plan r model).result = .ok p
  custom : p.custom = none
  same : p.fragments = [] → done.2 = .same
  other : p.fragments ≠ [] → ∃ s, done.2 = .statement s

variable {r : Registry} {model : String} {e : Entity} {s t : Statement}

/-- What one sort makes of a statement. -/
lemma sorted_of_apply [Orderings] (he : r.entity model = .ok e) {x : Sorting} {reply : Reply}
    (hresult : (x.apply r model s).result = .ok reply) (hcalls : (x.apply r model s).calls = [])
    (hnext : reply.statement? s = some t) :
    ∃ p, Fits r model (x, reply) p ∧ Sorted e [p] s t := by
  rw [Sorting.apply_eq he] at hresult hcalls
  obtain ⟨p, hp, happly⟩ := Traced.result_bind_eq_ok_iff.mp hresult
  have hquiet : (p.apply e s).calls = [] := by
    rw [Traced.calls_bind, hp] at hcalls
    exact (List.append_eq_nil_iff.mp hcalls).2
  have hcustom : p.custom = none := by
    rcases hcustom : p.custom with _ | call
    · rfl
    · rw [Plan.apply_of_call hcustom] at hquiet
      cases hquiet
  by_cases hfragments : p.fragments = []
  · rw [Plan.apply_of_empty hcustom hfragments] at happly
    obtain rfl : Reply.same = reply := Except.ok.inj happly
    obtain rfl : s = t := Option.some.inj hnext
    refine ⟨p, ⟨hp, hcustom, fun _ => rfl, fun h => absurd hfragments h⟩, ?_⟩
    have hjoins : p.joins = [] := by
      obtain ⟨a, g, raw, hcompile⟩ := Sorting.exists_compile he hp
      exact Compile.joins_eq_nil hcompile hfragments
    exact Sorted.of_empty hjoins hfragments
  · rw [(Plan.apply_of_fragments hcustom hfragments).result] at happly
    rcases hjoined : joinAll e p.joins s with failure | u
    · rw [hjoined] at happly
      cases happly
    · rw [hjoined] at happly
      obtain rfl : Reply.statement (u.orderBy (.text p.orderBy)) = reply := Except.ok.inj happly
      obtain rfl : u.orderBy (.text p.orderBy) = t := Option.some.inj hnext
      refine ⟨p, ⟨hp, hcustom, fun h => absurd h hfragments, fun _ => ⟨_, rfl⟩⟩, ?_⟩
      exact Sorted.of_joinAll hfragments hjoined

/-- What all sorts of a run make of a statement. What it selects, its conditions, its limit
and whether it takes rows twice stay as they are. The joins of the plans are added to its
own, in order, and its order is that of the last plan with a term, if there is one. -/
theorem Run.sorted [Orderings] (he : r.entity model = .ok e) {done : List (Sorting × Reply)}
    (h : Run r model s done t) :
    ∃ plans, List.Forall₂ (Fits r model) done plans ∧ Sorted e plans s t ∧
      (r.Declared →
        t.joins.map Join.name = s.joins.map Join.name ++ plans.flatMap Plan.joins) := by
  have key : ∃ plans, List.Forall₂ (Fits r model) done plans ∧ Sorted e plans s t := by
    induction h with
    | nil s => exact ⟨[], List.Forall₂.nil, Sorted.nil s⟩
    | cons hresult hcalls hnext hrest ih =>
        obtain ⟨p, hfits, hstep⟩ := sorted_of_apply he hresult hcalls hnext
        obtain ⟨plans, hall, hsorted⟩ := ih
        exact ⟨p :: plans, List.Forall₂.cons hfits hall, hstep.append hsorted⟩
  obtain ⟨plans, hall, hsorted⟩ := key
  exact ⟨plans, hall, hsorted, fun hr => hsorted.names hr he⟩

/-- Three sorts of a limited statement: one over a relation, one of which every token is
refused, and one of the table alone, which the model offers. -/
theorem Run.sorted_books :
    let _ : Orderings := .ofActs []
    let author : Link := ⟨⟨"author", "Author", "author_id", false⟩, "Book"⟩
    let key : Column := ⟨"id", none⟩
    let referring : Column := ⟨"author_id", some "authors"⟩
    let members := [("author", Attribute.relation author), ("id", .column key),
      ("author_id", .column referring)]
    let book : Model := {
      name := "Book", title := "Book", parent := none, mapped := true, sortable := true
      table := "books", bases := [], columns := [key, referring]
      homes := [("id", "books"), ("author_id", "books")], members := members
      attributes := ("__sortable__", .value (.list [.text "id"])) :: members }
    let writer : Model := {
      name := "Author", title := "Author", parent := none, mapped := true, sortable := false
      table := "authors", bases := [], columns := [key], homes := [("id", "authors")]
      members := [("id", .column key)]
      attributes := [("id", .column key)] }
    let r : Registry := [book, writer]
    let g : Gate := ⟨.lenient, .recording⟩
    let base : Statement := ((Statement.all book.view).limitTo 5).orderBy (.column "author_id")
    let join : Join := .plain "author" "authors" "books" "author_id" false
    let first := (base.join join).orderBy (.text "author.name DESC NULLS FIRST")
    let last := first.orderBy (.text "books.id ASC")
    let done := [(Sorting.compiled ⟨["author__name"], []⟩ g (.text "author__name:desc"),
        Reply.statement first),
      (.direct (.text "id,secret") (.list [.text "title"]) g, .same),
      (.offered (.text "id") g, .statement last)]
    Run r "Book" base done last ∧ ∃ e plans, r.entity "Book" = .ok e ∧
      List.Forall₂ (Fits r "Book") done plans ∧ Sorted e plans base last := by
  intro _ author key referring members book writer r g base join first last done
  let e : Entity := ⟨⟨"Book", r.attributes "Book"⟩, book.view, r.relations book⟩
  have he : r.entity "Book" = .ok e := rfl
  have hrun : Run r "Book" base done last :=
    .cons rfl rfl rfl (.cons rfl rfl rfl (.cons rfl rfl rfl (.nil last)))
  obtain ⟨plans, hfits, hsorted, -⟩ := Run.sorted he hrun
  exact ⟨hrun, e, plans, he, hfits, hsorted⟩

end QueryOrder
