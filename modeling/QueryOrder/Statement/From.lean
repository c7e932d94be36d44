/-
What a statement reads from.

A statement reads from its own rows and from those that are joined to them. A join
that belongs to other rows makes these a source of their own.

* `Rows.sql`: rows with those that they continue, each table joined to the next;
* `Source`: rows with the joins that are made on them;
* `Source.place`: a join added where its rows are;
* `Statement.sources`: all that a statement reads from.
-/
import QueryOrder.Failure
import QueryOrder.Statement.Basic
import QueryOrder.Statement.Identifier

namespace QueryOrder

open Identifier

/-! ### Rows -/

/-- A table joined to those that it continues. -/
def basesSql (table : String) : List Base → String
  | [] => Identifier.sql table
  | base :: rest =>
    basesSql base.table rest ++ " JOIN " ++ Identifier.sql table ++ " ON " ++
      if base.back then qualified table "id" ++ " = " ++ qualified base.table base.key
      else qualified base.table "id" ++ " = " ++ qualified table base.key

/-- Rows with those that they continue. -/
def Rows.sql (rows : Rows) : String := basesSql rows.table rows.bases

namespace Join

/-- The rows of a join. Those of several tables are selected first, each column under a name that
tells its table. -/
def targetSql (j : Join) : String :=
  if j.target.bases.isEmpty then Identifier.sql j.target.table
  else
    let listed := j.columns.map fun (table, column) =>
      qualified table column ++ " AS " ++ Identifier.sql (table ++ "_" ++ column)
    "(SELECT " ++ ", ".intercalate listed ++ " \nFROM " ++ j.target.sql ++ ")"

/-- A column of the rows of a join. -/
def columnSql (j : Join) (table column : String) : String :=
  if j.target.bases.isEmpty then qualified j.name column
  else qualified j.name (table ++ "_" ++ column)

end Join

/-! ### Sources -/

/-- Rows with the joins that are made on them. -/
structure Source where
  rows : Rows
  joins : List Join
deriving DecidableEq, Repr

namespace Source

/-- Whether rows are in a source, joined ones included, be it in one of their tables. -/
def holds (source : Source) (rows : Rows) : Bool :=
  (source.rows :: source.joins.map Join.target).any fun there =>
    there.tables.any rows.tables.contains

/-- The sources that a join can be made on: those that hold its rows. Of several
only those that start with one of their tables count, if there are such. -/
def candidates (sources : List Source) (rows : Rows) : List Source :=
  let holding := sources.filter (·.holds rows)
  let starting := holding.filter (·.rows.tables.any rows.tables.contains)
  if holding.length ≤ 1 || starting.isEmpty then holding else starting

/-- A join added at the end of a source. -/
def join (source : Source) (j : Join) : Source :=
  { source with joins := source.joins ++ [j] }

/-- A join added where its rows are, or in a source of its own. It has to be clear
where that is. The given rows are those of the statement: a source of rows that begin in the same
table is made of them. -/
def place (own : Rows) (sources : List Source) (j : Join) : Except Failure (List Source) :=
  match candidates sources j.source with
  | [] => .ok (sources ++ [⟨if own.root = j.source.root then own else j.source, [j]⟩])
  | [source] =>
    .ok (sources.map fun other =>
      if other.rows.table = source.rows.table then other.join j else other)
  | _ => .error (.statement .ambiguousJoin)

/-- A column as it is named in a source: by its table if the source starts with that, and otherwise
by the first join that leads to the table. -/
def columnSql (source : Source) (table column : String) : String :=
  if source.rows.tables.contains table then qualified table column
  else match source.joins.find? (·.target.tables.contains table) with
    | some j => j.columnSql table column
    | none => qualified table column

/-! ### Writing -/

/-- A join and the condition that it is made on, within its source. -/
def joinSql (source : Source) (j : Join) : String :=
  let condition :=
    if j.many then source.columnSql j.idTable "id" ++ " = " ++ j.columnSql j.keyTable j.key
    else j.columnSql j.idTable "id" ++ " = " ++ source.columnSql j.keyTable j.key
  " LEFT OUTER JOIN " ++ j.targetSql ++ " AS " ++ Identifier.sql j.name ++ " ON " ++ condition

/-- Rows with their joins. -/
def sql (source : Source) : String :=
  source.rows.sql ++ String.join (source.joins.map source.joinSql)

end Source

namespace Statement

/-- All that a statement reads from: its own rows, if it has no joins, and otherwise what its joins
belong to and then its own tables that are not among those. -/
def sources (s : Statement) : Except Failure (List Source) := do
  match ← s.joins.foldlM (Source.place s.table.rows) [] with
  | [] => return [⟨s.table.rows, []⟩]
  | joined =>
    let missing := s.table.rows.tables.filter fun table =>
      !joined.any (·.rows.tables.contains table)
    return joined ++ missing.map fun table => ⟨⟨table, []⟩, []⟩

end Statement

end QueryOrder
