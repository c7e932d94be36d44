/-
The text of an order, read back.

The text of an order is all that a statement keeps of a plan. As long as no name has the separator
of the terms in it, and no relation the dot before a column, nothing of the plan is lost in it.

* `Fragment.sql_ofColumn_ne`: a term of the table itself never has the text of a related one;
* `Fragment.relation_of_sql`: the text of a related term tells its relation;
* `Compile.fragment_of_sql`: the text of a term tells the term, over a model whose relations have
  no dot in their names;
* `Plan.parts_orderBy`: the text of an order is cut into the texts of its terms;
* `Compile.plan_of_orderBy`: the text of an order tells the plan, whatever was asked for and
  allowed.
-/
import QueryOrder.Proofs.Contribution
import QueryOrder.Proofs.Origin

namespace QueryOrder

/-! ### Terms -/

namespace Fragment

/-- A term of the table itself never has the text of a related one: it ends in its direction, and
the related one in the place of the rows without a related row. -/
lemma sql_ofColumn_ne {table column relation column' : String} {d d' : Direction} :
    (ofColumn table column d).sql ≠ (ofRelated relation column' d').sql := by
  intro h
  have hlast : ∀ s : String, (s ++ d.sql).toList.getLast? = some 'C' := by
    intro s
    cases d <;> simp [Direction.sql]
  have hlast' : ∀ s : String, (s ++ d'.nulls).toList.getLast? = some 'T' := by
    intro s
    cases d' <;> simp [Direction.nulls]
  rw [ofColumn, ofRelated] at h
  dsimp only at h
  have hends := hlast (table ++ "." ++ column ++ " ")
  rw [h, hlast'] at hends
  exact absurd hends (by decide)

/-- The text of a related term tells its relation, if that has no dot in its name. -/
lemma relation_of_sql {relation relation' column column' : String} {d d' : Direction}
    (hdot : '.' ∉ relation.toList) (hdot' : '.' ∉ relation'.toList)
    (h : (ofRelated relation column d).sql = (ofRelated relation' column' d').sql) :
    relation = relation' := by
  have hcut : ∀ (r c : String) (d : Direction), '.' ∉ r.toList →
      Text.cut ['.'] (ofRelated r c d).sql.toList =
        some (r.toList, (c ++ " " ++ d.sql ++ " " ++ d.nulls).toList) := by
    intro r c d hr
    rw [← Text.cut_append_cons hr]
    simp [ofRelated]
  have heq := hcut relation column d hdot
  rw [h, hcut relation' column' d' hdot'] at heq
  exact String.toList_inj.mp (congrArg Prod.fst (Option.some.inj heq)).symm

end Fragment

namespace Compile

variable {e : Entity} {a a' : AllowList} {g g' : Gate} {raw raw' : Value} {p p' : Plan}

/-- The text of a term tells the term, and with it the relation that it needs joined. -/
lemma fragment_of_sql (hdot : ∀ name, e.hasRelation name = true → '.' ∉ name.toList)
    (h : (compile e a g raw).result = .ok p) (h' : (compile e a' g' raw').result = .ok p')
    {f f' : Fragment} (hf : f ∈ p.fragments) (hf' : f' ∈ p'.fragments) (hsql : f.sql = f'.sql) :
    f = f' := by
  rcases fragment_cases h hf with ⟨field, d, rfl⟩ | ⟨relation, column, d, hsome, rfl⟩
  · rcases fragment_cases h' hf' with ⟨field', d', rfl⟩ | ⟨relation', column', d', -, rfl⟩
    · -- both need nothing joined
      exact congrArg (Fragment.mk · none) hsql
    · exact (Fragment.sql_ofColumn_ne hsql).elim
  · rcases fragment_cases h' hf' with ⟨field', d', rfl⟩ | ⟨relation', column', d', hsome', rfl⟩
    · exact (Fragment.sql_ofColumn_ne hsql.symm).elim
    · have hrelation : relation = relation' :=
        Fragment.relation_of_sql (hdot relation hsome) (hdot relation' hsome') hsql
      rw [Fragment.mk.injEq]
      exact ⟨hsql, congrArg some hrelation⟩

/-- Terms are told by their texts, one by one. -/
lemma fragments_of_sql (hdot : ∀ name, e.hasRelation name = true → '.' ∉ name.toList)
    (h : (compile e a g raw).result = .ok p) (h' : (compile e a' g' raw').result = .ok p')
    (hsql : p.fragments.map Fragment.sql = p'.fragments.map Fragment.sql) :
    p.fragments = p'.fragments := by
  refine List.ext_getElem (by simpa using congrArg List.length hsql) fun i hi hi' => ?_
  have hat : p.fragments[i].sql = p'.fragments[i].sql := by
    simpa [hi, hi'] using congrArg (·[i]?) hsql
  exact fragment_of_sql hdot h h' (List.getElem_mem hi) (List.getElem_mem hi') hat

/-- No term is without a text. -/
lemma sql_ne_empty (h : (compile e a g raw).result = .ok p) {f : Fragment}
    (hf : f ∈ p.fragments) : f.sql ≠ "" := by
  rcases fragment_cases h hf with ⟨field, d, rfl⟩ | ⟨relation, column, d, -, rfl⟩
  · simp [Fragment.ofColumn]
  · simp [Fragment.ofRelated]

end Compile

/-! ### Orders -/

/-- The text of an order is cut into the texts of its terms, if no term has a comma in it. -/
lemma Plan.parts_orderBy {p : Plan} (hne : p.fragments ≠ [])
    (h : ∀ f ∈ p.fragments, ',' ∉ f.sql.toList) :
    (Text.parts ',' [' '] p.orderBy.toList).map String.ofList = p.fragments.map Fragment.sql := by
  have hterms : p.orderBy.toList =
      (',' :: [' ']).intercalate (p.fragments.map fun f => f.sql.toList) := by
    simp [orderBy, String.toList_intercalate, Function.comp_def]
  rw [hterms, Text.parts_intercalate (by simpa using hne) (by simpa using h)]
  simp [Function.comp_def]

/-- The text of an order without terms is empty, and that of no other one. -/
lemma Plan.orderBy_eq_empty_iff {p : Plan} (h : ∀ f ∈ p.fragments, f.sql ≠ "") :
    p.orderBy = "" ↔ p.fragments = [] := by
  rw [orderBy]
  rcases hp : p.fragments with _ | ⟨f, _ | ⟨f', rest⟩⟩
  · simp
  · simpa using h f (by simp [hp])
  · simp [String.intercalate_cons_cons]

namespace Compile

variable {e : Entity}

/-- Over a table without a comma in its name, and relations without a dot in theirs, the text of an
order tells the plan. It is empty exactly if there are no terms, and otherwise cut at `", "` it is
the texts of the terms. Two plans with one text are equal, whatever was asked for and by
whichever allow-lists and gates; and two terms with one text are, so that a term of the table
itself never has that of a related one. -/
theorem plan_of_orderBy (htable : ',' ∉ e.table.name.toList)
    (hdot : ∀ name, e.hasRelation name = true → '.' ∉ name.toList) :
    (∀ a g raw p, (compile e a g raw).result = .ok p →
      (p.orderBy = "" ↔ p.fragments = []) ∧
      (p.fragments ≠ [] → (Text.parts ',' [' '] p.orderBy.toList).map String.ofList =
        p.fragments.map Fragment.sql)) ∧
    ∀ a g raw p a' g' raw' p', (compile e a g raw).result = .ok p →
      (compile e a' g' raw').result = .ok p' →
      (p.custom = none → p'.custom = none → p.orderBy = p'.orderBy → p = p') ∧
      (∀ f ∈ p.fragments, ∀ f' ∈ p'.fragments, f.sql = f'.sql → f = f') ∧
      ∀ f ∈ p.fragments, ∀ f' ∈ p'.fragments, f.join = none → f'.join.isSome = true →
        f.sql ≠ f'.sql := by
  have hempty : ∀ a g raw p, (compile e a g raw).result = .ok p →
      (p.orderBy = "" ↔ p.fragments = []) := fun a g raw p h =>
    Plan.orderBy_eq_empty_iff fun f hf => sql_ne_empty h hf
  have hparts : ∀ a g raw p, (compile e a g raw).result = .ok p → p.fragments ≠ [] →
      (Text.parts ',' [' '] p.orderBy.toList).map String.ofList = p.fragments.map Fragment.sql := by
    intro a g raw p h hne
    refine Plan.parts_orderBy hne fun f hf => ?_
    obtain ⟨t, ht⟩ := exists_vetted_of_mem h hf
    exact ht.comma_notMem_sql htable
  refine ⟨fun a g raw p h => ⟨hempty a g raw p h, hparts a g raw p h⟩, ?_⟩
  intro a g raw p a' g' raw' p' h h'
  have hterm : ∀ f ∈ p.fragments, ∀ f' ∈ p'.fragments, f.sql = f'.sql → f = f' :=
    fun f hf f' hf' => fragment_of_sql hdot h h' hf hf'
  refine ⟨fun hcustom hcustom' hclause => ?_, hterm, ?_⟩
  · have hfragments : p.fragments = p'.fragments := by
      by_cases hne : p.fragments = []
      · have hne' : p'.fragments = [] := by
          rw [← hempty a' g' raw' p' h', ← hclause, hempty a g raw p h, hne]
        rw [hne, hne']
      · have hne' : p'.fragments ≠ [] := by
          rwa [ne_eq, ← hempty a' g' raw' p' h', ← hclause, hempty a g raw p h]
        refine fragments_of_sql hdot h h' ?_
        rw [← hparts a g raw p h hne, hclause, hparts a' g' raw' p' h' hne']
    calc p = .ofFragments p.fragments := eq_ofFragments e a h hcustom
      _ = .ofFragments p'.fragments := by rw [hfragments]
      _ = p' := (eq_ofFragments e a' h' hcustom').symm
  · intro f hf f' hf' hnone hsome hsql
    rw [← hterm f hf f' hf' hsql, hnone] at hsome
    cases hsome

/-- A column that is named like the rest of a related term, and a relation that goes by the name of
the table: their terms differ in the last word alone. -/
theorem plan_of_orderBy_books :
    let join (name : String) : String × Except Failure Join :=
      (name, .ok (.plain name "authors" "books" (name ++ "_id") false))
    let e : Entity := ⟨⟨"Book", []⟩, .plain "books" ["id"], [join "books", join "author"]⟩
    let a : AllowList := ⟨["title ASC NULLS", "books__title", "author__first.name"], []⟩
    let raw : Value := .text "title ASC NULLS:desc,books__title,author__first.name:desc"
    let p : Plan := ⟨["books", "author"],
      [⟨"books.title ASC NULLS DESC", none⟩, ⟨"books.title ASC NULLS LAST", some "books"⟩,
        ⟨"author.first.name DESC NULLS FIRST", some "author"⟩], none⟩
    (compile e a ⟨.strict, .absent⟩ raw).result = .ok p ∧
      (Text.parts ',' [' '] p.orderBy.toList).map String.ofList =
        ["books.title ASC NULLS DESC", "books.title ASC NULLS LAST",
          "author.first.name DESC NULLS FIRST"] ∧
      ∀ a' g' raw' p', (compile e a' g' raw').result = .ok p' → p'.custom = none →
        p'.orderBy = "books.title ASC NULLS DESC, books.title ASC NULLS LAST, " ++
          "author.first.name DESC NULLS FIRST" → p' = p := by
  intro join e a raw p
  have htable : ',' ∉ e.table.name.toList := by decide
  have hdot : ∀ name, e.hasRelation name = true → '.' ∉ name.toList := by
    have hnames : ∀ entry ∈ e.relations, '.' ∉ entry.1.toList := by decide
    intro name h
    obtain ⟨entry, hmem, hname⟩ := List.lookup_isSome_iff.mp h
    exact eq_of_beq hname ▸ hnames entry hmem
  have h : (compile e a ⟨.strict, .absent⟩ raw).result = .ok p := by decide +kernel
  obtain ⟨hread, htold⟩ := plan_of_orderBy htable hdot
  refine ⟨h, (hread a _ raw p h).2 (by decide), fun a' g' raw' p' h' hcustom hclause => ?_⟩
  exact (htold a' g' raw' p' a _ raw p h' h).1 hcustom rfl (hclause.trans (by decide +kernel))

end Compile

end QueryOrder
