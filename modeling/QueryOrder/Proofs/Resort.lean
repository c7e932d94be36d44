/-
Sorts of a statement that is sorted already.

The order of the second sort takes the place of the first one, but the joins of both stay.

* `Run.cons_nil_iff`: a run of one sort;
* `Sorting.nodup_joins`: one sort joins no relation twice;
* `Statement.rejoined`, `Run.again`: the same sort once more changes nothing but the joins,
  which are all there twice;
* `Run.resorted`: two sorts join a relation twice exactly if both of them need it, and the
  same sort once more changes nothing exactly if it joins nothing.
-/
import Mathlib.Data.List.Nodup
import QueryOrder.Proofs.Calling
import QueryOrder.Proofs.Qualifier
import QueryOrder.Proofs.Succession

namespace QueryOrder

variable {r : Registry} {model : String} {e : Entity} {s t u : Statement}

/-! ### One sort -/

/-- A run of one sort is one that succeeds, calls nothing and leaves a statement. -/
lemma Run.cons_nil_iff [Orderings] {x : Sorting} {reply : Reply} :
    Run r model s [(x, reply)] t ↔
      (x.apply r model s).result = .ok reply ∧ (x.apply r model s).calls = [] ∧
        reply.statement? s = some t := by
  constructor
  · intro h
    cases h with
    | cons hresult hcalls hnext hrest =>
        cases hrest
        exact ⟨hresult, hcalls, hnext⟩
  · rintro ⟨hresult, hcalls, hnext⟩
    exact .cons hresult hcalls hnext (.nil t)

/-- One sort joins no relation twice. -/
lemma Sorting.nodup_joins (he : r.entity model = .ok e) {x : Sorting} {p : Plan}
    (h : (x.plan r model).result = .ok p) : p.joins.Nodup := by
  obtain ⟨a, g, raw, hcompile⟩ := x.exists_compile he h
  by_cases hfragments : p.fragments = []
  · rw [Compile.joins_eq_nil hcompile hfragments]
    exact List.nodup_nil
  · exact (Compile.joins_of_fragments hcompile hfragments).2.1

/-- What a sort does is to apply its plan, which calls nothing. -/
lemma Sorting.apply_of_plan [Orderings] (he : r.entity model = .ok e) {x : Sorting} {p : Plan}
    (hp : (x.plan r model).result = .ok p) (hquiet : (x.plan r model).calls = [])
    (hcustom : p.custom = none) (s : Statement) :
    (x.apply r model s).result = (p.apply e s).result ∧ (x.apply r model s).calls = [] := by
  rw [Sorting.apply_eq he, Traced.calls_bind, hquiet, Traced.bind_of_ok hp, hp]
  exact ⟨rfl, Plan.apply_calls hcustom⟩

/-! ### The same sort once more -/

/-- A statement with all its joins made once more. -/
def Statement.rejoined (s : Statement) : Statement :=
  { s with joins := s.joins ++ s.joins }

/-- Without joins there is nothing to make once more. -/
lemma Statement.rejoined_of_nil (h : s.joins = []) : s.rejoined = s := by
  rw [rejoined, h, List.append_nil, ← h]

/-- The same sort once more changes nothing but the joins, which are all there twice. -/
lemma Run.again [Orderings] (he : r.entity model = .ok e) (hs : s.joins = []) {x : Sorting}
    {first : Reply} (h : Run r model s [(x, first)] t) :
    ∃ second, Run r model t [(x, second)] t.rejoined := by
  obtain ⟨hresult, hcalls, hnext⟩ := Run.cons_nil_iff.mp h
  obtain ⟨p, hfits, hsorted⟩ := sorted_of_apply he hresult hcalls hnext
  have hp : (x.plan r model).result = .ok p := hfits.plan
  have hquiet : (x.plan r model).calls = [] := by
    rw [Sorting.apply_eq he, Traced.calls_bind] at hcalls
    exact (List.append_eq_nil_iff.mp hcalls).1
  obtain ⟨happly, hnone⟩ := Sorting.apply_of_plan he hp hquiet hfits.custom t
  obtain ⟨js, hjs, hjoins⟩ := hsorted.joins
  rw [List.flatMap_singleton] at hjs
  rw [hs, List.nil_append] at hjoins
  by_cases hfragments : p.fragments = []
  · -- nothing is joined, and the statement is handed back
    have hempty : p.joins = [] := by
      obtain ⟨a, g, raw, hcompile⟩ := x.exists_compile he hp
      exact Compile.joins_eq_nil hcompile hfragments
    have hnil : t.joins = [] := by
      rw [hempty] at hjs
      cases hjs
      exact hjoins
    refine ⟨.same, Run.cons_nil_iff.mpr ⟨?_, hnone, ?_⟩⟩
    · rw [happly, Plan.apply_of_empty hfits.custom hfragments]
      rfl
    · rw [Statement.rejoined_of_nil hnil]
      rfl
  · have horder : t.order = [.text p.orderBy] := by
      rw [hsorted.order]
      simp [hfragments]
    have hjoined : joinAll e p.joins t = .ok t.rejoined :=
      joinAll_eq_ok_iff.mpr ⟨js, hjs, by rw [Statement.rejoined, hjoins]⟩
    have hsame : t.rejoined.orderBy (.text p.orderBy) = t.rejoined := by
      rw [Statement.orderBy, ← horder]
      rfl
    refine ⟨.statement t.rejoined, Run.cons_nil_iff.mpr ⟨?_, hnone, rfl⟩⟩
    rw [happly, (Plan.apply_of_fragments hfits.custom hfragments).result, hjoined]
    simp only [Traced.ofExcept, Except.map, hsame]

/-! ### Another sort -/

/-- A relation that two plans without repetitions join is there once for each of them. -/
lemma count_append_of_nodup {js ks : List String} (hjs : js.Nodup) (hks : ks.Nodup)
    (relation : String) :
    (js ++ ks).count relation =
      (if relation ∈ js then 1 else 0) + if relation ∈ ks then 1 else 0 := by
  rw [List.count_append, hjs.count, hks.count]

/-- A sort of a statement without joins, and then another one. Each relation is joined once
for either sort that needs it, so that no relation is joined twice exactly if the two sorts
have none in common. The same sort once more leaves all as it is but for the joins, which
are there twice: it changes nothing exactly if nothing is joined. -/
theorem Run.resorted [Orderings] (hr : r.Declared) (he : r.entity model = .ok e)
    (hs : s.joins = []) {x : Sorting} {first : Reply} (h : Run r model s [(x, first)] t) :
    ∃ p, Fits r model (x, first) p ∧
      (∀ y second u, Run r model t [(y, second)] u → ∃ q, Fits r model (y, second) q ∧
        (∀ relation, (u.joins.map Join.name).count relation =
          (if relation ∈ p.joins then 1 else 0) + if relation ∈ q.joins then 1 else 0) ∧
        ((u.joins.map Join.name).Nodup ↔ p.joins.Disjoint q.joins)) ∧
      ∃ second u, Run r model t [(x, second)] u ∧ u = t.rejoined ∧
        (u.joins = t.joins ∧ u.order = t.order ∧ u.sql = t.sql ↔ p.joins = []) := by
  obtain ⟨hresult, hcalls, hnext⟩ := Run.cons_nil_iff.mp h
  obtain ⟨p, hfits, hsorted⟩ := sorted_of_apply he hresult hcalls hnext
  have hnames : t.joins.map Join.name = p.joins := by
    simpa [hs] using hsorted.names hr he
  have hnodup : p.joins.Nodup := Sorting.nodup_joins he hfits.plan
  refine ⟨p, hfits, fun y second u hsecond => ?_, ?_⟩
  · obtain ⟨hresult', hcalls', hnext'⟩ := Run.cons_nil_iff.mp hsecond
    obtain ⟨q, hfits', hsorted'⟩ := sorted_of_apply he hresult' hcalls' hnext'
    have hnodup' : q.joins.Nodup := Sorting.nodup_joins he hfits'.plan
    have hnames' : u.joins.map Join.name = p.joins ++ q.joins := by
      simpa [hnames] using hsorted'.names hr he
    refine ⟨q, hfits', fun relation => ?_, ?_⟩
    · rw [hnames', count_append_of_nodup hnodup hnodup']
    · rw [hnames', List.nodup_append']
      simp [hnodup, hnodup']
  · obtain ⟨second, hagain⟩ := Run.again he hs h
    refine ⟨second, t.rejoined, hagain, rfl, ?_⟩
    have hjoins : p.joins = [] ↔ t.joins = [] := by rw [← hnames, List.map_eq_nil_iff]
    rw [hjoins]
    constructor
    · rintro ⟨hdoubled, -, -⟩
      exact List.append_right_eq_self.mp hdoubled
    · intro hnil
      rw [Statement.rejoined_of_nil hnil]
      exact ⟨rfl, rfl, rfl⟩

/-! ### Books sorted twice -/

namespace Registry

/-- A sort of books by what may be sorted by. -/
def bookSort (raw : String) : Sorting :=
  .compiled ⟨["author__name", "Editor__name"], []⟩ ⟨.lenient, .recording⟩ (.text raw)

/-- Books sorted by their authors, and then by their editors or by their authors again. -/
theorem resorted_books :
    let _ : Orderings := .ofActs []
    let base := Statement.all book.table
    let author : Join := .plain "author" "writers" "books" "author_id" false
    let editor : Join := .plain "Editor" "writers" "books" "editor_id" false
    let once := (base.join author).orderBy (.text "author.name ASC NULLS LAST")
    let other := (once.join editor).orderBy (.text "Editor.name DESC NULLS FIRST")
    let first := (bookSort "author__name", Reply.statement once)
    let second := (bookSort "Editor__name:desc", Reply.statement other)
    Run books "Book" base [first] once ∧ Run books "Book" once [second] other ∧
      (other.joins.map Join.name).Nodup ∧
      ∃ reply, Run books "Book" once [(bookSort "author__name", reply)] once.rejoined ∧
        ¬ (once.rejoined.joins = once.joins ∧ once.rejoined.order = once.order ∧
          once.rejoined.sql = once.sql) := by
  intro _ base author editor once other first second
  have he : books.entity "Book" = .ok book := rfl
  have hfirst : Run books "Book" base [first] once := Run.cons_nil_iff.mpr ⟨rfl, rfl, rfl⟩
  have hsecond : Run books "Book" once [second] other := Run.cons_nil_iff.mpr ⟨rfl, rfl, rfl⟩
  obtain ⟨p, hfits, hother, reply, u, hagain, rfl, hsame⟩ :=
    Run.resorted declared_books he rfl hfirst
  obtain ⟨q, hfits', -, hnodup⟩ := hother _ _ _ hsecond
  have hp : p.joins = ["author"] := by
    have hplan := hfits.plan
    rw [← Except.ok.inj hplan]
    rfl
  have hq : q.joins = ["Editor"] := by
    have hplan := hfits'.plan
    rw [← Except.ok.inj hplan]
    rfl
  refine ⟨hfirst, hsecond, hnodup.mpr ?_, reply, hagain, fun h => ?_⟩
  · rw [hp, hq]
    simp
  · rw [hsame.mp h] at hp
    cases hp

/-- Books that are sorted by their authors twice have two joins under one name. -/
theorem resorted_alias_twice :
    let _ : Orderings := .ofActs []
    let c : Compiler := ⟨"Book", ⟨["author__name"], []⟩, .lenient, .recording⟩
    let raw := Value.text "author__name"
    let author : Join := .plain "author" "writers" "books" "author_id" false
    let once := ((Statement.all book.table).join author).orderBy
      (.text "author.name ASC NULLS LAST")
    let twice := once.join author
    (books.apply c raw none).result = .ok (.statement once) ∧
      (books.apply c raw (some once)).result = .ok (.statement twice) ∧
      ¬ (twice.joins.map Join.name).Nodup ∧
      once.sql = .ok ("SELECT books.id, books.author_id, books.editor_id \nFROM books " ++
        "LEFT OUTER JOIN writers AS author ON author.id = books.author_id " ++
        "ORDER BY author.name ASC NULLS LAST") ∧
      twice.sql = .ok ("SELECT books.id, books.author_id, books.editor_id \nFROM books " ++
        "LEFT OUTER JOIN writers AS author ON author.id = books.author_id " ++
        "LEFT OUTER JOIN writers AS author ON author.id = books.author_id " ++
        "ORDER BY author.name ASC NULLS LAST") := by
  intro _ c raw author once twice
  exact ⟨rfl, rfl, by decide, by decide +kernel, by decide +kernel⟩

end Registry

end QueryOrder
