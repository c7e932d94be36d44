/-
Select statements.

* `Rows`: the rows of a table, which may continue those of other tables;
* `Table`: the rows of a model with its columns, each in the tables that have it;
* `Statement`: a selection of all columns of a table, with its joins, its
  conditions, its order and its limit;
* `Join`: related rows under the name of the relation that leads to them;
* `Statement.join`, `Statement.orderBy`: a join added at the end, the order
  replaced;
* `Statement.unordered`, `Statement.appendOrder`: the order taken away, a term
  after the ones already there;
* `Statement.filter`, `Statement.distinctRows`, `Statement.limitTo`: a condition
  added, no row twice, a number of rows.
-/
import QueryOrder.Value.Basic

namespace QueryOrder

/-! ### Tables -/

/-- A table that is continued in another one. Its rows have the primary key `id`, and the column
`key` of the other table refers to it; or else, the other way around, `key` is a column here and
refers to the primary key there. -/
structure Base where
  table : String
  key : String
  back : Bool
deriving DecidableEq, Repr

/-- The rows of a table. Each of them may be the rest of a row of another table, which may itself be
the rest of one, and so on: the nearest table comes first. -/
structure Rows where
  table : String
  bases : List Base
deriving DecidableEq, Repr

namespace Rows

/-- The tables that rows are in, the nearest first. -/
def tables (rows : Rows) : List String :=
  rows.table :: rows.bases.map Base.table

/-- The table in which rows begin. -/
def root (rows : Rows) : String :=
  (rows.bases.getLast?.map Base.table).getD rows.table

end Rows

/-- A column, and the tables that have it: the one from which it is read comes first. -/
structure Cell where
  column : String
  tables : List String
deriving DecidableEq, Repr

/-- The rows of a model and its columns. -/
structure Table where
  rows : Rows
  cells : List Cell
deriving DecidableEq, Repr

namespace Table

/-- The table of the rows, and not of those that they continue. -/
def name (t : Table) : String := t.rows.table

/-- The names of the columns. -/
def columns (t : Table) : List String := t.cells.map Cell.column

/-- The table that a column is read from. -/
def home (t : Table) (column : String) : String :=
  ((t.cells.find? (·.column = column)).bind fun cell => cell.tables.head?).getD t.name

/-- A table by itself, with all its columns. -/
def plain (name : String) (columns : List String) : Table :=
  ⟨⟨name, []⟩, columns.map fun column => ⟨column, [name]⟩⟩

end Table

/-! ### Joins and conditions -/

/-- Related rows, joined under the name of the relation. Of one related row, `key` is the column
that refers to it; of many, the column in which each of them refers back. -/
structure Join where
  name : String
  target : Rows
  /-- The columns of the target with their tables. They are listed only where these are several. -/
  columns : List (String × String)
  /-- The rows that have the relation. -/
  source : Rows
  key : String
  /-- The table of `key`, on the one side. -/
  keyTable : String
  /-- The table of the primary key that it refers to, on the other side. -/
  idTable : String
  many : Bool
deriving DecidableEq, Repr

/-- A join of two tables that stand for themselves. -/
def Join.plain (name target source key : String) (many : Bool) : Join where
  name := name
  target := ⟨target, []⟩
  columns := []
  source := ⟨source, []⟩
  key := key
  keyTable := if many then target else source
  idTable := if many then source else target
  many := many

/-- A condition on the rows. -/
inductive Filter where
  /-- A column has a value. -/
  | equals (column : String) (value : Value)
  /-- Every row is taken, or none is. -/
  | constant (holds : Bool)

/-- A term of an ORDER BY clause. -/
inductive OrderTerm where
  /-- A selected column. -/
  | column (name : String)
  /-- A text of its own. -/
  | text (sql : String)
deriving DecidableEq, Repr

/-! ### Statements -/

/-- A selection of all columns of a table. -/
structure Statement where
  table : Table
  distinct : Bool
  joins : List Join
  filters : List Filter
  order : List OrderTerm
  limit : Option Int

namespace Statement

/-- All rows of a table. -/
def all (table : Table) : Statement :=
  ⟨table, false, [], [], [], none⟩

/-- A join added after the others. Nothing else is touched. -/
def join (s : Statement) (j : Join) : Statement :=
  { s with joins := s.joins ++ [j] }

/-- A condition added after the others. Nothing else is touched. -/
def filter (s : Statement) (f : Filter) : Statement :=
  { s with filters := s.filters ++ [f] }

/-- No row twice. Nothing else is touched. -/
def distinctRows (s : Statement) : Statement :=
  { s with distinct := true }

/-- A limit set for the number of rows. Nothing else is touched. -/
def limitTo (s : Statement) (n : Int) : Statement :=
  { s with limit := some n }

/-- The order replaced by one term. Nothing else is touched. -/
def orderBy (s : Statement) (term : OrderTerm) : Statement :=
  { s with order := [term] }

/-- The order taken away. Nothing else is touched. -/
def unordered (s : Statement) : Statement :=
  { s with order := [] }

/-- A term after the order already there. Nothing else is touched. -/
def appendOrder (s : Statement) (term : OrderTerm) : Statement :=
  { s with order := s.order ++ [term] }

end Statement

end QueryOrder
