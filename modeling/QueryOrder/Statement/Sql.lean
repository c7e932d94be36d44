/-
The text of select statements.

* `Table.selectedSql`: the columns of a table as they are selected;
* `Statement.placeholders`: the names of the placeholders in a statement;
* `Statement.fault?`: why a statement cannot be written, if it cannot;
* `Statement.text`: the text of a statement over its sources;
* `Statement.sql`: the text of a statement, if it can be written.
-/
import QueryOrder.Statement.From
import QueryOrder.Statement.RawText

namespace QueryOrder

open Identifier

/-! ### Columns -/

/-- The columns whose names are there already, those before included. -/
def repeatedColumns (before : List String) : List (String × String) → List String
  | [] => []
  | (_, column) :: rest =>
    if before.contains column then column :: repeatedColumns before rest
    else repeatedColumns (column :: before) rest

/-- Columns with their tables. One whose name is there already gets another one, of those that are
given. -/
def columnsSql (before : List String) : List (String × String) → List String → List String
  | [], _ => []
  | (table, column) :: rest, labels =>
    if before.contains column then
      (qualified table column ++ " AS " ++ Identifier.sql (labels.headD "")) ::
        columnsSql before rest labels.tail
    else qualified table column :: columnsSql (column :: before) rest labels

namespace Table

/-- The selected columns. One that several tables have is selected from each of them. -/
def selected (t : Table) : List (String × String) :=
  t.cells.flatMap fun cell => cell.tables.map fun table => (table, cell.column)

/-- The stems of the names that columns get since theirs are there already. -/
def labelStems (t : Table) : List String :=
  (repeatedColumns [] t.selected).map Placeholder.labelStem

/-- The columns as they are selected. -/
def selectedSql (t : Table) : List String :=
  columnsSql [] t.selected (Placeholder.names [] t.labelStems)

end Table

/-! ### Conditions and terms -/

namespace Filter

/-- The column that a condition is on. -/
def column? : Filter → Option String
  | equals column _ => some column
  | constant _ => none

/-- The column of a condition whose value has a placeholder. Nothing and the two
truth values are written into the statement. -/
def bound? : Filter → Option String
  | equals _ .null => none
  | equals _ (.bool _) => none
  | equals column _ => some column
  | constant _ => none

/-- Whether the value of a condition has a placeholder. -/
def isBound (f : Filter) : Bool := f.bound?.isSome

/-- The text of a truth value. -/
def truth (b : Bool) : String := if b then "true" else "false"

/-- A condition, with the placeholder of the given name for its value. -/
def sql (table : Table) (name : String) : Filter → String
  | equals column .null => qualified (table.home column) column ++ " IS NULL"
  | equals column (.bool b) => qualified (table.home column) column ++ " = " ++ truth b
  | equals column _ => qualified (table.home column) column ++ " = " ++ Placeholder.sql name
  | constant holds => truth holds

/-- Whether a condition takes no row at all. -/
def isNever : Filter → Bool
  | constant false => true
  | _ => false

/-- Whether a condition takes every row. -/
def isAlways : Filter → Bool
  | constant true => true
  | _ => false

/-- The conditions that are written. One that takes no row makes the others
needless, and one that takes every row is needless beside another. -/
def written (filters : List Filter) : List Filter :=
  if filters.any isNever then [constant false]
  else match filters.filter fun f => !f.isAlways with
    | [] => filters.take 1
    | others => others

end Filter

/-- Conditions, with the placeholders of the given names one after the other. -/
def filtersSql (table : Table) : List Filter → List String → List String
  | [], _ => []
  | f :: rest, names =>
    f.sql table (names.headD "") :: filtersSql table rest (if f.isBound then names.tail else names)

/-- A term of an order. -/
def OrderTerm.sql (table : Table) : OrderTerm → String
  | column name => qualified (table.home name) name
  | text sql => RawText.sql sql

/-- The column that a term of an order is. -/
def OrderTerm.column? : OrderTerm → Option String
  | column name => some name
  | text _ => none

/-- The names of the placeholders in a term of an order. -/
def OrderTerm.names : OrderTerm → List String
  | column _ => []
  | text sql => RawText.names sql

namespace Statement

/-! ### What can be written -/

/-- The conditions of a statement that are written. -/
def conditions (s : Statement) : List Filter := Filter.written s.filters

/-- The names of the placeholders in the conditions and the limit. -/
def placeholders (s : Statement) : List String :=
  let stems := (s.conditions.filterMap Filter.bound?).map Placeholder.stem
  Placeholder.names s.table.labelStems.reverse
    (stems ++ if s.limit.isSome then [Placeholder.freeStem] else [])

/-- The columns that a statement names besides the selected ones. -/
def namedColumns (s : Statement) : List String :=
  s.conditions.filterMap Filter.column? ++ s.order.filterMap OrderTerm.column?

/-- Why a statement cannot be written, if it cannot: it names a column that its
table lacks, or a text in its order takes the name of one of its placeholders. -/
def fault? (s : Statement) : Option StatementFault :=
  if s.namedColumns.any fun column => !s.table.columns.contains column then some .unknownColumn
  else if (s.order.flatMap OrderTerm.names).any s.placeholders.contains then
    some .placeholderTaken
  else none

/-! ### Writing -/

/-- The terms of the order that are not empty. -/
def orderSql (s : Statement) : List String :=
  (s.order.map (OrderTerm.sql s.table)).filter (· != "")

/-- A clause of a statement, which is left out when it has no parts. -/
def clause (opening mark : String) (parts : List String) : String :=
  if parts.isEmpty then "" else opening ++ mark.intercalate parts

/-- The text of a statement over its sources. -/
def text (s : Statement) (sources : List Source) : String :=
  "SELECT " ++ (if s.distinct then "DISTINCT " else "") ++
    ", ".intercalate s.table.selectedSql ++
    " \nFROM " ++ ", ".intercalate (sources.map Source.sql) ++
    clause " \nWHERE " " AND " (filtersSql s.table s.conditions s.placeholders) ++
    clause " ORDER BY " ", " s.orderSql ++
    match s.limit with
    | some _ => " \n LIMIT " ++ Placeholder.sql (s.placeholders.getLastD "")
    | none => ""

/-- The text of a statement, if it can be written. -/
def sql (s : Statement) : Except Failure String := do
  let sources ← s.sources
  match s.fault? with
  | some fault => .error (.statement fault)
  | none => .ok (s.text sources)

end Statement

end QueryOrder
