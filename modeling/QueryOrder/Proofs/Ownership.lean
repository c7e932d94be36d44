/-
The table that a term of the order names, and the table of its column.

A term of the table itself names the table of the model. A model may have a column that was
declared in the table of an ancestor, which is another one if the model, or an ancestor between the
two, has a table of its own.

* `Plan.byColumn`, `Plan.byColumn_inj`: the plan that sorts by a column of a table, and that it
  tells the table;
* `Compile.compile_column`: a field that is neither one of a relation nor a custom ordering compiles
  to the plan that sorts by it as a column of the table of the model;
* `Registry.Declared.named_table_iff`: this is the table in which the column is declared exactly if
  a class over the table of the model is written with the column.
-/
import QueryOrder.Proofs.Application
import QueryOrder.Proofs.Model.Hierarchy
import QueryOrder.Proofs.Token.RoundTrip

namespace QueryOrder

/-! ### Sorts by a column -/

/-- The plan that sorts by a column of a table. -/
def Plan.byColumn (table column : String) (d : Direction) : Plan :=
  ⟨[], [⟨table ++ "." ++ column ++ " " ++ d.sql, none⟩], none⟩

/-- Such a plan tells the table. -/
lemma Plan.byColumn_inj {table table' column : String} {d : Direction} :
    byColumn table column d = byColumn table' column d ↔ table = table' := by
  constructor
  · intro h
    have hsql : table ++ "." ++ column ++ " " ++ d.sql = table' ++ "." ++ column ++ " " ++ d.sql :=
      congrArg Fragment.sql (List.cons.inj (congrArg Plan.fragments h)).1
    simpa only [String.append_left_inj] using hsql
  · rintro rfl
    rfl

/-- An allowed field that is neither one of a relation nor a custom ordering compiles to the sort by
a column of the table of the model, and nothing is refused. -/
lemma Compile.compile_column {e : Entity} {a : AllowList} {raw : Value} {spec field : String}
    {d : Direction} (hraw : raw.text? = some spec) (hparse : Token.parse spec = [⟨field, d⟩])
    (hallowed : field ∈ a.fields) (hlocal : Field.ofText field = .column field) (g : Gate) :
    (compile e a g raw).result = .ok (.byColumn e.table.name field d) ∧
      (compile e a g raw).warnings = [] := by
  obtain ⟨-, hplain, hmark⟩ := Field.ofText_eq_column_iff.mp hlocal
  have hruling : ruling e a ⟨field, d⟩ = .ok (.ofColumn e.table.name field d) :=
    (Ruled.column hallowed hmark).eq
  exact compile_of_granted hraw hparse hplain hruling g

/-! ### The table of the column -/

namespace Registry

variable {r : Registry} {c : Compiler} {e : Entity} {raw : Value} {spec field : String}
  {d : Direction}

/-- An allowed field of the table itself that is a column of the model, by itself or by inheritance,
is declared in one table. It compiles to the sort by a column of the table of the model, under both
policies and with nothing refused. The two tables are the same, and the term names the table of
its column, exactly if the model or an ancestor over the same table is written with the column. -/
theorem Declared.named_table_iff (hr : r.Declared) (he : r.entity c.model = .ok e)
    (hraw : raw.text? = some spec) (hparse : Token.parse spec = [⟨field, d⟩])
    (hallowed : field ∈ c.allowed.fields) (hlocal : Field.ofText field = .column field)
    (hcolumn : field ∈ e.table.columns) :
    ∃ table, columnTable? field (r.lineage c.model) = some table ∧
      (r.compile c raw).result =
        .ok ⟨[], [⟨e.table.name ++ "." ++ field ++ " " ++ d.sql, none⟩], none⟩ ∧
      (r.compile c raw).warnings = [] ∧
      ((r.compile c raw).result =
          .ok ⟨[], [⟨table ++ "." ++ field ++ " " ++ d.sql, none⟩], none⟩ ↔
        ∃ k ∈ r.lineage c.model, k.table = e.table.name ∧ k.Adds field) := by
  obtain ⟨m, hfind, hmapped, -, hview, -⟩ := entity_eq_ok_iff.mp he
  obtain ⟨ancestors, hlineage⟩ := lineage_of_find hfind
  have hdescends : Descends m ancestors := hr.descends c.model m ancestors hlineage hmapped
  have htable : e.table.name = m.table := by rw [hview]; rfl
  rw [hview] at hcolumn
  obtain ⟨table, hdeclared⟩ := hdescends.exists_columnTable hcolumn
  obtain ⟨hresult, hwarnings⟩ :=
    Compile.compile_column (e := e) hraw hparse hallowed hlocal c.gate
  rw [compile_of_entity he, hlineage]
  refine ⟨table, hdeclared, hresult, hwarnings, ?_⟩
  calc (Compile.compile e c.allowed c.gate raw).result = .ok (.byColumn table field d)
      ↔ Plan.byColumn m.table field d = .byColumn table field d := by
        rw [hresult, htable, Except.ok.injEq]
    _ ↔ table = m.table := by rw [Plan.byColumn_inj, eq_comm]
    _ ↔ ∃ k ∈ m :: ancestors, k.table = e.table.name ∧ k.Adds field := by
        rw [hdescends.columnTable_eq_iff hdeclared, htable]

/-! ### Employees and engineers -/

/-- Employees, as a class is written. They can be sorted by their names. -/
def employeeClass : Declaration :=
  ⟨"Employee", .root false, some "employees", [⟨"name", none⟩], [], some (.list [.text "name"])⟩

/-- Engineers, who are employees with a table of their own. -/
def engineerClass : Declaration :=
  ⟨"Engineer", .child "Employee", some "engineers", [⟨"skill", none⟩], [], none⟩

/-- Leads, who share the table of the engineers. -/
def leadClass : Declaration :=
  ⟨"Lead", .child "Engineer", none, [⟨"rank", none⟩], [], none⟩

/-- The model of employees alone. -/
def employees : Registry := (declareModel [] employeeClass).toOption.getD []

/-- The models of employees and of engineers. -/
def engineers : Registry := (employees.declareModel engineerClass).toOption.getD []

/-- The models of employees, of engineers and of leads. -/
def staff : Registry := (engineers.declareModel leadClass).toOption.getD []

/-- The rows of engineers, which continue those of employees. -/
def engineerRows : Rows := ⟨"engineers", [⟨"employees", "id", false⟩]⟩

/-- The columns of engineers. Both tables have the primary key. -/
def engineerCells : List Cell :=
  [⟨"id", ["engineers", "employees"]⟩, ⟨"name", ["employees"]⟩, ⟨"skill", ["engineers"]⟩]

lemma declared_engineers : engineers.Declared :=
  have hemployees : declareModel [] employeeClass = .ok employees := rfl
  have hengineers : employees.declareModel engineerClass = .ok engineers := rfl
  .declare (.declare .nil employeeClass hemployees) engineerClass hengineers

lemma declared_staff : staff.Declared :=
  have hstaff : engineers.declareModel leadClass = .ok staff := rfl
  .declare declared_engineers leadClass hstaff

/-- A lead has a column from the engineers, over the same table, and one from the employees, over
another one. Only the first is named by its table. -/
theorem Declared.named_table_iff_staff :
    let c : Compiler := ⟨"Lead", ⟨["name", "skill"], []⟩, .lenient, .recording⟩
    columnTable? "skill" (staff.lineage "Lead") = some "engineers" ∧
      (staff.compile c (.text "skill:desc")).result =
        .ok ⟨[], [⟨"engineers.skill DESC", none⟩], none⟩ ∧
      columnTable? "name" (staff.lineage "Lead") = some "employees" ∧
      (staff.compile c (.text "name")).result ≠
        .ok ⟨[], [⟨"employees.name ASC", none⟩], none⟩ := by
  intro c
  let e : Entity :=
    ⟨⟨"Lead", staff.attributes "Lead"⟩,
      ⟨engineerRows, engineerCells ++ [⟨"rank", ["engineers"]⟩]⟩, []⟩
  have he : staff.entity c.model = .ok e := rfl
  have hskill : Value.text? (.text "skill:desc") = some "skill:desc" := rfl
  have hname : Value.text? (.text "name") = some "name" := rfl
  have hclean : Token.IsClean "name" := ⟨by decide, by decide +kernel, by decide, by decide⟩
  have hparse : Token.parse "skill:desc" = [⟨"skill", .descending⟩] := by decide +kernel
  obtain ⟨table, hdeclared, -, -, hsame⟩ := declared_staff.named_table_iff he hskill hparse
    (by decide) (by decide +kernel) (by decide)
  obtain ⟨table', hdeclared', -, -, hother⟩ := declared_staff.named_table_iff he hname
    (Token.parse_field hclean) (by decide) (by decide +kernel) (by decide)
  obtain rfl : "engineers" = table := Option.some.inj hdeclared
  obtain rfl : "employees" = table' := Option.some.inj hdeclared'
  refine ⟨rfl, hsame.mpr (by decide +kernel), rfl, fun h => ?_⟩
  exact absurd (hother.mp h) (by decide +kernel)

/-- An engineer has a name in the table of the employees, and may be sorted by it as they are. The
term names the table of the engineers, which has no such column. -/
theorem inherited_column_elsewhere :
    let c : Compiler := ⟨"Engineer", ⟨["name"], []⟩, .lenient, .recording⟩
    engineers.Declared ∧ engineers.declared "Engineer" = .ok c.allowed ∧
      (∃ e, engineers.entity "Engineer" = .ok e ∧ "name" ∈ e.table.columns) ∧
      Field.ofText "name" = .column "name" ∧
      columnTable? "name" (engineers.lineage "Engineer") = some "employees" ∧
      (engineers.compile c (.text "name")).result =
        .ok ⟨[], [⟨"engineers.name ASC", none⟩], none⟩ ∧
      (engineers.compile c (.text "name")).result ≠
        .ok ⟨[], [⟨"employees.name ASC", none⟩], none⟩ ∧
      "name" ∉ (engineers.tableColumns "engineers").map Column.name := by
  intro c
  let e : Entity :=
    ⟨⟨"Engineer", engineers.attributes "Engineer"⟩, ⟨engineerRows, engineerCells⟩, []⟩
  have he : engineers.entity "Engineer" = .ok e := rfl
  exact ⟨declared_engineers, rfl, ⟨e, he, by decide⟩, by decide +kernel, rfl, rfl,
    by decide +kernel, by decide +kernel⟩

end Registry

end QueryOrder
