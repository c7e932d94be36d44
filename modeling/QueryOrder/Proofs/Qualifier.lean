/-
The tables that the terms of an order refer to.

A term names the table of its column by a text of its own, and the statement reads from that
table under a name. The two are written in different ways: a name may need quotes, while a
text is taken as it is. And the statement may read from several tables without a join, since the
rows of a model may continue those of another one.

* `Fragment.qualifier`, `exists_sql_eq`: the text before the column of a term;
* `Fragment.Means`: what a term refers to, its own table or the join of its relation;
* `statement_of_apply`: the statement that a plan with terms makes of all rows;
* `items_of_table`, `items_of_join`: what goes by the name of the model's table or of a relation;
* `means_iff_of_column`, `means_iff_of_related`: when a term goes for what it means alone;
* `Registry.qualifier_iff`: the terms as they are written, each of which refers to what it
  means alone exactly if the name needs no quotes and nothing else goes by it.
-/
import QueryOrder.Proofs.Application
import QueryOrder.Proofs.Model.Hierarchy
import QueryOrder.Proofs.Statement.From
import QueryOrder.Proofs.Statement.RawText
import QueryOrder.Scope.Act

namespace QueryOrder

/-! ### Terms and what they refer to -/

namespace Fragment

/-- The text before the column of a term. -/
def qualifier (table : String) (f : Fragment) : String :=
  f.join.getD table

/-- What a term refers to. -/
inductive Means (e : Entity) (f : Fragment) : Item → Prop
  /-- A column of the table itself. -/
  | table (hjoin : f.join = none) : Means e f (.table e.table.name)
  /-- A column of the table that a relation leads to. -/
  | join {relation : String} {j : Join} (hjoin : f.join = some relation)
      (hj : e.joinOf relation = .ok j) : Means e f (.join j)

/-- The name that a term uses is not that of a joined relation and of a table that the rows of the
model are in at once. -/
def IsClear (e : Entity) (p : Plan) (f : Fragment) : Prop :=
  (f.join = none → e.table.name ∉ p.joins) ∧ ∀ table ∈ e.table.rows.tables, f.join ≠ some table

instance (e : Entity) (p : Plan) (f : Fragment) : Decidable (f.IsClear e p) :=
  inferInstanceAs (Decidable (_ ∧ _))

end Fragment

namespace Compile

variable {e : Entity} {a : AllowList} {g : Gate} {raw : Value} {p : Plan} {f : Fragment}

/-- A term starts with its qualifier and a dot. -/
lemma exists_sql_eq (h : (compile e a g raw).result = .ok p) (hf : f ∈ p.fragments) :
    ∃ rest, f.sql = f.qualifier e.table.name ++ "." ++ rest := by
  rcases fragment_cases h hf with ⟨field, d, rfl⟩ | ⟨relation, column, d, -, rfl⟩
  · refine ⟨field ++ " " ++ d.sql, ?_⟩
    simp [Fragment.qualifier, Fragment.ofColumn, String.append_assoc]
  · refine ⟨column ++ " " ++ d.sql ++ " " ++ d.nulls, ?_⟩
    simp [Fragment.qualifier, Fragment.ofRelated, String.append_assoc]

/-- A plan with terms calls nothing, and joins what they need, each relation once. -/
lemma joins_of_fragments (h : (compile e a g raw).result = .ok p) (hp : p.fragments ≠ []) :
    p.custom = none ∧ p.joins.Nodup ∧
      ∀ f ∈ p.fragments, ∀ relation, f.join = some relation → relation ≠ "" →
        relation ∈ p.joins := by
  have hcustom : p.custom = none := by
    rcases Request.plan_eq_ok (plan_of_compile_eq_ok e a h) with
      ⟨tokens, -, rfl⟩ | rfl | ⟨t, scope, -, -, -, rfl⟩
    · rfl
    · rfl
    · exact absurd rfl hp
  rw [joins_eq h]
  exact ⟨hcustom, Fragment.nodup_joins _, fun f hf relation hjoin hne =>
    Fragment.mem_joins_iff.mpr ⟨hne, f, hf, hjoin⟩⟩

end Compile

/-! ### The order as it is written -/

namespace Plan

variable {p : Plan} {table : String}

/-- The terms of an order are written one by one, each with its qualifier before a dot. -/
lemma sql_orderBy
    (h : ∀ f ∈ p.fragments, ∃ rest, f.sql = f.qualifier table ++ "." ++ rest) :
    RawText.sql p.orderBy = ", ".intercalate (p.fragments.map fun f => RawText.sql f.sql) ∧
      ∀ f ∈ p.fragments, ∃ rest,
        RawText.sql f.sql = RawText.sql (f.qualifier table) ++ "." ++ rest := by
  have hcomma : ∀ c ∈ ", ".toList, RawText.IsBreak c := by
    simp [RawText.isBreak_comma, RawText.isBreak_space]
  have hdot : ∀ c ∈ ".".toList, RawText.IsBreak c := by simp [RawText.isBreak_dot]
  refine ⟨?_, fun f hf => ?_⟩
  · rw [orderBy, RawText.sql_intercalate (by decide) hcomma, List.map_map]
    rfl
  · obtain ⟨rest, hrest⟩ := h f hf
    exact ⟨RawText.sql rest, by rw [hrest, RawText.sql_append_breaks _ _ (by decide) hdot]⟩

/-- An order with terms is not empty. -/
lemma sql_orderBy_ne_empty (hp : p.fragments ≠ [])
    (h : ∀ f ∈ p.fragments, ∃ rest, f.sql = f.qualifier table ++ "." ++ rest) :
    RawText.sql p.orderBy ≠ "" := by
  obtain ⟨horder, hterms⟩ := sql_orderBy h
  obtain ⟨f, fs, hfs⟩ := List.exists_cons_of_ne_nil hp
  have hf : f ∈ p.fragments := by
    rw [hfs]
    exact List.mem_cons_self
  obtain ⟨rest, hrest⟩ := hterms f hf
  have hmem : '.' ∈ (RawText.sql p.orderBy).toList := by
    rw [horder, hfs, List.map_cons, hrest]
    rcases fs with _ | ⟨f', fs⟩ <;> simp
  intro hempty
  rw [hempty] at hmem
  cases hmem

end Plan

/-! ### What goes by a name -/

section Items

variable {js : List Join} {rows : Rows}

/-- Of joins with different names one goes by the name of a given one. -/
lemma filter_name {j : Join} (hnodup : (js.map Join.name).Nodup) (hj : j ∈ js) :
    (js.filter fun other => other.name = j.name) = [j] := by
  induction js with
  | nil => cases hj
  | cons first js ih =>
      rw [List.map_cons, List.nodup_cons] at hnodup
      rcases List.mem_cons.mp hj with rfl | hj
      · have hrest : (js.filter fun other => other.name = j.name) = [] := by
          rw [List.filter_eq_nil_iff]
          intro other hother
          have hne : other.name ≠ j.name := fun h =>
            hnodup.1 (h ▸ List.mem_map.mpr ⟨other, hother, rfl⟩)
          simpa using hne
        rw [List.filter_cons_of_pos (by simp), hrest]
      · have hne : first.name ≠ j.name := fun h =>
          hnodup.1 (h ▸ List.mem_map.mpr ⟨j, hj, rfl⟩)
        rw [List.filter_cons_of_neg (by simpa using hne), ih hnodup.2 hj]

/-- What goes by a name that needs no quotes is what has it. -/
lemma items_filter_of_plain {name : String} (h : Identifier.needsQuotes name = false) :
    ((Source.mk rows js).items.filter fun item => item.written = name) =
      (rows.tables.filter (· = name)).map .table ++
        (js.filter fun j => j.name = name).map .join := by
  have htables : ((rows.tables.map Item.table).filter fun item => item.written = name)
      = (rows.tables.filter (· = name)).map .table := by
    rw [List.filter_map]
    refine congrArg (List.map Item.table) (List.filter_congr fun table _ => ?_)
    simp [Item.written, Identifier.sql_eq_iff h]
  have hjoins : ((js.map Item.join).filter fun item => item.written = name)
      = (js.filter fun j => j.name = name).map .join := by
    rw [List.filter_map]
    refine congrArg (List.map Item.join) (List.filter_congr fun j _ => ?_)
    simp [Item.written, Identifier.sql_eq_iff h]
  rw [Source.items, List.filter_append, htables, hjoins]

/-- Of tables that are all different one is the model's own. -/
lemma filter_own_table (hnodup : rows.tables.Nodup) :
    rows.tables.filter (· = rows.table) = [rows.table] := by
  rw [Rows.tables, List.nodup_cons] at hnodup
  rw [Rows.tables, List.filter_cons_of_pos (by simp), List.filter_eq_nil_iff.mpr]
  intro table htable
  have hne : table ≠ rows.table := fun heq => hnodup.1 (heq ▸ htable)
  simpa using hne

/-- A name that needs quotes is not written like the text of it. -/
lemma Identifier.sql_ne_of_quotes {name : String} (h : needsQuotes name = true) :
    sql name ≠ RawText.sql name := by
  intro heq
  have hquoted := count_quote_sql h
  rw [heq, RawText.count_quote_sql] at hquoted
  omega

/-- The text of a name that needs no quotes is the name. -/
lemma Identifier.rawText_of_plain {name : String} (h : needsQuotes name = false) :
    RawText.sql name = name :=
  RawText.sql_of_plain fun c hc =>
    ⟨(clean_of_plain h c hc).1, (clean_of_plain h c hc).2.1, (clean_of_plain h c hc).2.2.1⟩

/-- What needs quotes does not go by the text of its name. -/
lemma filter_ne_of_quotes {items : List Item} {item : Item} {name : String}
    (hwritten : item.written = Identifier.sql name) (h : Identifier.needsQuotes name = true) :
    (items.filter fun other => other.written = RawText.sql name) ≠ [item] := by
  intro hitems
  have hmem : item ∈ items.filter fun other => other.written = RawText.sql name := by
    rw [hitems]
    exact List.mem_cons_self
  have htext : item.written = RawText.sql name := of_decide_eq_true (List.mem_filter.mp hmem).2
  exact Identifier.sql_ne_of_quotes h (hwritten.symm.trans htext)

/-- The model's own table alone goes by the text of its name exactly if that needs no quotes and no
relation has it. -/
lemma items_of_table (hnodup : rows.tables.Nodup) :
    ((Source.mk rows js).items.filter fun item => item.written = RawText.sql rows.table)
        = [.table rows.table] ↔
      Identifier.needsQuotes rows.table = false ∧ rows.table ∉ js.map Join.name := by
  rcases hquotes : Identifier.needsQuotes rows.table with _ | _
  · rw [Identifier.rawText_of_plain hquotes, items_filter_of_plain hquotes,
      filter_own_table hnodup]
    simp
  · have hwritten : (Item.table rows.table).written = Identifier.sql rows.table := rfl
    simp [filter_ne_of_quotes hwritten hquotes]

/-- A join alone goes by the text of its name exactly if that needs no quotes and is not the
name of one of the tables. -/
lemma items_of_join {j : Join} (hnodup : (js.map Join.name).Nodup) (hj : j ∈ js) :
    ((Source.mk rows js).items.filter fun item => item.written = RawText.sql j.name)
        = [.join j] ↔
      Identifier.needsQuotes j.name = false ∧ j.name ∉ rows.tables := by
  rcases hquotes : Identifier.needsQuotes j.name with _ | _
  · rw [Identifier.rawText_of_plain hquotes, items_filter_of_plain hquotes, filter_name hnodup hj]
    have hnone : rows.tables.filter (· = j.name) = [] ↔ j.name ∉ rows.tables := by
      rw [List.filter_eq_nil_iff]
      exact ⟨fun h hmem => h _ hmem (decide_eq_true rfl),
        fun h table hmem heq => h (of_decide_eq_true heq ▸ hmem)⟩
    rw [← hnone]
    simp
  · have hwritten : (Item.join j).written = Identifier.sql j.name := rfl
    simp [filter_ne_of_quotes hwritten hquotes]

end Items

namespace Registry

variable {r : Registry} {c : Compiler} {e : Entity} {raw : Value} {p : Plan} {s : Statement}

/-- A plan with terms makes of all rows a statement with the joins of its relations and
with its order. -/
lemma statement_of_apply [Orderings] (he : r.entity c.model = .ok e)
    (hp : (r.compile c raw).result = .ok p) (hfragments : p.fragments ≠ [])
    (hs : (r.apply c raw none).result = .ok (.statement s)) :
    ∃ js, List.Forall₂ (fun name j => e.joinOf name = .ok j) p.joins js ∧
      s = { Statement.all e.table with joins := js, order := [.text p.orderBy] } := by
  have hcustom : p.custom = none := by
    rw [compile_of_entity he] at hp
    exact (Compile.joins_of_fragments hp hfragments).1
  rw [apply_of_entity he, Traced.bind_of_ok hp] at hs
  have hresult : (p.apply e (.all e.table)).result = .ok (.statement s) := hs
  rw [(Plan.apply_of_fragments hcustom hfragments).result] at hresult
  rcases hjoined : joinAll e p.joins (.all e.table) with failure | t
  · rw [hjoined] at hresult
    cases hresult
  · rw [hjoined] at hresult
    obtain ⟨js, hjs, rfl⟩ := joinAll_eq_ok_iff.mp hjoined
    refine ⟨js, hjs, ?_⟩
    have heq := Reply.statement.inj (Except.ok.inj hresult)
    rw [← heq]
    rfl

/-- The joins of a plan go by the names of its relations, each with the join of its
relation, and are made on the rows of the model. -/
lemma names_of_joins (hr : r.Declared) (he : r.entity c.model = .ok e) {names : List String}
    {js : List Join} (hjs : List.Forall₂ (fun name j => e.joinOf name = .ok j) names js) :
    js.map Join.name = names ∧ (∀ name ∈ names, ∃ j ∈ js, e.joinOf name = .ok j) ∧
      ∀ j ∈ js, j.source = e.table.rows := by
  induction hjs with
  | nil => simp
  | @cons name j names js hj _ ih =>
      obtain ⟨hnames, hfound, hsource⟩ := ih
      refine ⟨by rw [List.map_cons, hr.name_of_joinOf he hj, hnames], fun other hother => ?_, ?_⟩
      · rcases List.mem_cons.mp hother with rfl | hother
        · exact ⟨j, List.mem_cons_self, hj⟩
        · obtain ⟨j', hmem, hj'⟩ := hfound other hother
          exact ⟨j', List.mem_cons_of_mem j hmem, hj'⟩
      · exact List.forall_mem_cons.mpr ⟨source_of_joinOf he hj, hsource⟩

/-- The tables of a model are all different. -/
lemma Declared.nodup_tables (hr : r.Declared) (he : r.entity c.model = .ok e) :
    e.table.rows.tables.Nodup := by
  obtain ⟨m, hfind, hmapped, -, htable, -⟩ := entity_eq_ok_iff.mp he
  obtain ⟨ancestors, hlineage⟩ := lineage_of_find hfind
  rw [htable]
  exact (hr.descends c.model m ancestors hlineage hmapped).tables.1

/-- A term of the table itself is the name of what it means exactly if that needs no quotes
and no joined relation has it. -/
lemma means_iff_of_column {f : Fragment} {js : List Join} (hr : r.Declared)
    (he : r.entity c.model = .ok e) (hnames : js.map Join.name = p.joins) (hjoin : f.join = none) :
    (∃ item, f.Means e item ∧
        ((Source.mk e.table.rows js).items.filter fun other =>
          other.written = RawText.sql (f.qualifier e.table.name)) = [item]) ↔
      Identifier.needsQuotes (f.qualifier e.table.name) = false ∧ f.IsClear e p := by
  have hqualifier : f.qualifier e.table.name = e.table.name := by
    rw [Fragment.qualifier, hjoin]
    rfl
  have hclear : f.IsClear e p ↔ e.table.name ∉ js.map Join.name := by
    simp [Fragment.IsClear, hjoin, hnames]
  rw [hqualifier, hclear]
  refine Iff.trans ?_ (items_of_table (hr.nodup_tables he))
  constructor
  · rintro ⟨item, hmeans, hitem⟩
    cases hmeans with
    | table => exact hitem
    | join hjoin' => rw [hjoin] at hjoin'; cases hjoin'
  · exact fun hitem => ⟨_, .table hjoin, hitem⟩

/-- A term of a joined relation is the name of what it means exactly if that needs no quotes
and is not the name of one of the tables. -/
lemma means_iff_of_related {f : Fragment} {js : List Join} {relation : String}
    (hr : r.Declared) (he : r.entity c.model = .ok e)
    (hjs : List.Forall₂ (fun name j => e.joinOf name = .ok j) p.joins js)
    (hnodup : p.joins.Nodup) (hjoin : f.join = some relation)
    (hneeded : relation ≠ "" → relation ∈ p.joins) :
    (∃ item, f.Means e item ∧
        ((Source.mk e.table.rows js).items.filter fun other =>
          other.written = RawText.sql (f.qualifier e.table.name)) = [item]) ↔
      Identifier.needsQuotes (f.qualifier e.table.name) = false ∧ f.IsClear e p := by
  obtain ⟨hnames, hfound, -⟩ := names_of_joins hr he hjs
  have hnodup' : (js.map Join.name).Nodup := hnames ▸ hnodup
  have hqualifier : f.qualifier e.table.name = relation := by
    rw [Fragment.qualifier, hjoin]
    rfl
  have hclear : f.IsClear e p ↔ relation ∉ e.table.rows.tables := by
    simp only [Fragment.IsClear, hjoin, reduceCtorEq, false_implies, true_and]
    exact ⟨fun h hmem => h relation hmem rfl,
      fun h table hmem heq => h (Option.some.inj heq ▸ hmem)⟩
  rw [hqualifier, hclear]
  constructor
  · rintro ⟨item, hmeans, hitems⟩
    cases hmeans with
    | table hnone => rw [hjoin] at hnone; cases hnone
    | @join relation' j hjoin' hj =>
        obtain rfl : relation = relation' := Option.some.inj (hjoin.symm.trans hjoin')
        obtain rfl : j.name = relation := hr.name_of_joinOf he hj
        have hmem : Item.join j ∈ (Source.mk e.table.rows js).items := by
          have hkept : Item.join j ∈ (Source.mk e.table.rows js).items.filter
              fun other => other.written = RawText.sql j.name := by
            rw [hitems]
            exact List.mem_cons_self
          exact (List.mem_filter.mp hkept).1
        have hj' : j ∈ js := by simpa [Source.items] using hmem
        exact (items_of_join hnodup' hj').mp hitems
  · rintro ⟨hplain, hother⟩
    have hne : relation ≠ "" := by
      rintro rfl
      exact absurd hplain (by decide +kernel)
    obtain ⟨j, hj', hj⟩ := hfound relation (hneeded hne)
    obtain rfl : j.name = relation := hr.name_of_joinOf he hj
    exact ⟨.join j, .join hjoin hj, (items_of_join hnodup' hj').mpr ⟨hplain, hother⟩⟩

/-- A specification with terms of the order, applied to all rows of a model. The text of the
statement is written over one source, that of the rows of the model, be they in one table or in
several, with the joins of the plan, and in its order each term starts with its qualifier, taken
as it is. That is the name, as it is written, of what the term means and of nothing else exactly if
it needs no quotes and is not the name of a relation to be joined and of one of the tables at
once. -/
theorem qualifier_iff [Orderings] (hr : r.Declared) (he : r.entity c.model = .ok e)
    (hp : (r.compile c raw).result = .ok p) (hfragments : p.fragments ≠ [])
    (hs : (r.apply c raw none).result = .ok (.statement s)) :
    let source : Source := ⟨e.table.rows, s.joins⟩
    let terms := p.fragments.map fun f => RawText.sql f.sql
    s.sql = .ok ("SELECT " ++ ", ".intercalate e.table.selectedSql ++
        " \nFROM " ++ source.sql ++ " ORDER BY " ++ ", ".intercalate terms) ∧
      ∀ f ∈ p.fragments,
        (∃ rest, RawText.sql f.sql = RawText.sql (f.qualifier e.table.name) ++ "." ++ rest) ∧
        ((∃ item, f.Means e item ∧
            (source.items.filter fun other =>
              other.written = RawText.sql (f.qualifier e.table.name)) = [item]) ↔
          Identifier.needsQuotes (f.qualifier e.table.name) = false ∧ f.IsClear e p) := by
  intro source terms
  obtain ⟨js, hjs, rfl⟩ := statement_of_apply he hp hfragments hs
  rw [compile_of_entity he] at hp
  obtain ⟨-, hnodup, hneeded⟩ := Compile.joins_of_fragments hp hfragments
  obtain ⟨hnames, -, hown⟩ := names_of_joins hr he hjs
  have hsqls : ∀ f ∈ p.fragments, ∃ rest, f.sql = f.qualifier e.table.name ++ "." ++ rest :=
    fun f hf => Compile.exists_sql_eq hp hf
  obtain ⟨horder, hterms⟩ := Plan.sql_orderBy hsqls
  refine ⟨?_, fun f hf => ⟨hterms f hf, ?_⟩⟩
  · rw [Statement.sql_of_text hown (Plan.sql_orderBy_ne_empty hfragments hsqls), horder]
  · rcases hjoin : f.join with _ | relation
    · exact means_iff_of_column hr he hnames hjoin
    · exact means_iff_of_related hr he hjs hnodup hjoin (hneeded f hf relation hjoin)

/-! ### Books and their writers -/

/-- Writers, as a class is written. -/
def writerClass : Declaration :=
  ⟨"Writer", .root false, some "writers", [⟨"name", none⟩], [], none⟩

/-- Books with two relations to writers, of which only one has a capital letter. -/
def bookClass : Declaration :=
  ⟨"Book", .root false, some "books",
    [⟨"author_id", some "writers"⟩, ⟨"editor_id", some "writers"⟩],
    [⟨"author", "Writer", "author_id", false⟩, ⟨"Editor", "Writer", "editor_id", false⟩], none⟩

/-- The model of writers alone. -/
def writers : Registry := (declareModel [] writerClass).toOption.getD []

/-- The models of writers and of books. -/
def books : Registry := (writers.declareModel bookClass).toOption.getD []

/-- Novels, which are books with a table of their own. A relation of theirs has the name of the
table of the books. -/
def novelClass : Declaration :=
  ⟨"Novel", .child "Book", some "novels", [⟨"critic_id", some "writers"⟩],
    [⟨"books", "Writer", "critic_id", false⟩], none⟩

/-- The models of writers, of books and of novels. -/
def novels : Registry := (books.declareModel novelClass).toOption.getD []

lemma declared_books : books.Declared :=
  have hwriters : declareModel [] writerClass = .ok writers := rfl
  have hbooks : writers.declareModel bookClass = .ok books := rfl
  .declare (.declare .nil writerClass hwriters) bookClass hbooks

lemma declared_novels : novels.Declared :=
  have hnovels : books.declareModel novelClass = .ok novels := rfl
  .declare declared_books novelClass hnovels

/-- The model of books as a sort sees it. -/
def book : Entity :=
  ⟨⟨"Book", books.attributes "Book"⟩, .plain "books" ["id", "author_id", "editor_id"],
    [("author", .ok (.plain "author" "writers" "books" "author_id" false)),
      ("Editor", .ok (.plain "Editor" "writers" "books" "editor_id" false))]⟩

/-- The rows of novels, which continue those of books. -/
def novelRows : Rows := ⟨"novels", [⟨"books", "id", false⟩]⟩

/-- A join of a writer to the rows of novels, over a column of one of the two tables. -/
def writerJoin (name table key : String) : Join :=
  { Join.plain name "writers" table key false with source := novelRows }

/-- The model of novels as a sort sees it. -/
def novel : Entity :=
  ⟨⟨"Novel", novels.attributes "Novel"⟩,
    ⟨novelRows, [⟨"id", ["novels", "books"]⟩, ⟨"author_id", ["books"]⟩, ⟨"editor_id", ["books"]⟩,
      ⟨"critic_id", ["novels"]⟩]⟩,
    [("books", .ok (writerJoin "books" "novels" "critic_id")),
      ("author", .ok (writerJoin "author" "books" "author_id")),
      ("Editor", .ok (writerJoin "Editor" "books" "editor_id"))]⟩

/-- Novels sorted by two of their writers and by their own key. The statement reads from the table
of the books, too, so that the term of the relation with this name refers to two things. The
relation that novels have from books is referred to by its term, and so is their own table. -/
theorem qualifier_iff_books :
    let _ : Orderings := .ofActs []
    let c : Compiler := ⟨"Novel", ⟨["author__name", "books__name", "id"], []⟩, .lenient, .absent⟩
    let raw := Value.text "author__name,books__name:desc,id"
    let first := Fragment.ofRelated "author" "name" .ascending
    let second := Fragment.ofRelated "books" "name" .descending
    let third := Fragment.ofColumn "novels" "id" .ascending
    let s : Statement := {
      Statement.all novel.table with
      joins := [writerJoin "author" "books" "author_id", writerJoin "books" "novels" "critic_id"]
      order := [.text ("author.name ASC NULLS LAST, books.name DESC NULLS FIRST, " ++
        "novels.id ASC")] }
    let source : Source := ⟨novelRows, s.joins⟩
    novels.entity "Novel" = .ok novel ∧ (novels.apply c raw none).result = .ok (.statement s) ∧
      s.sql = .ok ("SELECT novels.id, books.id AS id_1, books.author_id, books.editor_id, " ++
        "novels.critic_id \nFROM books JOIN novels ON books.id = novels.id " ++
        "LEFT OUTER JOIN writers AS author ON author.id = books.author_id " ++
        "LEFT OUTER JOIN writers AS books ON books.id = novels.critic_id " ++
        "ORDER BY author.name ASC NULLS LAST, books.name DESC NULLS FIRST, novels.id ASC") ∧
      (∃ item, first.Means novel item ∧
        (source.items.filter fun other => other.written = RawText.sql "author") = [item]) ∧
      (¬ ∃ item, second.Means novel item ∧
        (source.items.filter fun other => other.written = RawText.sql "books") = [item]) ∧
      ∃ item, third.Means novel item ∧
        (source.items.filter fun other => other.written = RawText.sql "novels") = [item] := by
  intro _ c raw first second third s source
  have he : novels.entity c.model = .ok novel := rfl
  have hp : (novels.compile c raw).result =
      .ok ⟨["author", "books"], [first, second, third], none⟩ := rfl
  have hs : (novels.apply c raw none).result = .ok (.statement s) := rfl
  obtain ⟨-, hterms⟩ := qualifier_iff declared_novels he hp (List.cons_ne_nil _ _) hs
  refine ⟨he, hs, by decide +kernel, ?_, ?_, ?_⟩
  · exact (hterms first (by simp)).2.mpr ⟨by decide +kernel, by decide +kernel⟩
  · intro h
    have hclear := ((hterms second (by simp)).2.mp h).2
    exact absurd hclear (by decide +kernel)
  · exact (hterms third (by simp)).2.mpr ⟨by decide +kernel, by decide +kernel⟩

/-- A relation with a capital letter is joined under a name in quotes, while the term of its
column has the name without them, by which nothing goes. -/
theorem capital_relation_unmatched :
    let _ : Orderings := .ofActs []
    let c : Compiler := ⟨"Book", ⟨["Editor__name"], []⟩, .lenient, .recording⟩
    let s : Statement := {
      Statement.all book.table with
      joins := [.plain "Editor" "writers" "books" "editor_id" false]
      order := [.text "Editor.name ASC NULLS LAST"] }
    (books.apply c (.text "Editor__name") none).result = .ok (.statement s) ∧
      s.sql = .ok ("SELECT books.id, books.author_id, books.editor_id \nFROM books " ++
        "LEFT OUTER JOIN writers AS \"Editor\" ON \"Editor\".id = books.editor_id " ++
        "ORDER BY Editor.name ASC NULLS LAST") ∧
      ∀ item ∈ (Source.mk book.table.rows s.joins).items, item.written ≠ "Editor" := by
  intro _ c s
  exact ⟨rfl, by decide +kernel, by decide +kernel⟩

end Registry

end QueryOrder
