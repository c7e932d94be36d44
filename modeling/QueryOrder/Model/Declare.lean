/-
The declaration of models.

A model without a table of its own shares that of its parent and adds its columns
to it. One with a table of its own refers from it to that of its parent.

* `Declaration`: a class as it is written;
* `Declaration.written`: what it is written with, each name once;
* `Registry.bases`, `Registry.homes`: the tables that the table of a new model continues, and those
  of its columns;
* `Registry.members`: the columns and the relations that a new model has for its
  table;
* `Registry.fault?`: why a model cannot be declared, if it cannot;
* `Registry.declareModel`: a model declared after the others.
-/
import QueryOrder.Model.Basic

namespace QueryOrder

/-- Where a class comes from. -/
inductive Origin where
  /-- It stands for no table. -/
  | plain
  /-- It inherits from no model, and may have the entry points of a sortable one. -/
  | root (sortable : Bool)
  | child (parent : String)
deriving DecidableEq, Repr

/-- A class as it is written. -/
structure Declaration where
  name : String
  origin : Origin
  /-- The name of its own table. Without one it shares that of its parent. -/
  table : Option String
  /-- The columns besides the primary key. -/
  columns : List Column
  relations : List Relation
  /-- What it declares to be sortable. -/
  sortable : Option Value

namespace Declaration

/-- The model that a class inherits from. -/
def parent? (d : Declaration) : Option String :=
  match d.origin with
  | .child parent => some parent
  | _ => none

/-- The primary key that a class is written with. In a table of its own a child
refers by it to the table of its parent. -/
def key? (d : Declaration) (parent : Option Model) : Option Column :=
  if d.table.isSome || d.parent?.isNone then some ⟨primaryKey, parent.map Model.table⟩ else none

/-- The columns and the relations that a class is written with, each name once: of
several the last, in the place of the first. -/
def written (d : Declaration) (parent : Option Model) : List (String × Attribute) :=
  let columns := (d.key? parent).toList ++ d.columns
  putAll (· == ·)
    ((columns.map fun c => (c.name, .column c)) ++
      d.relations.map fun relation => (relation.name, .relation ⟨relation, d.name⟩))

/-- The values that a class is written with. -/
def values (d : Declaration) : List (String × Attribute) :=
  (d.table.map fun table => ("__tablename__", .value (.text table))).toList ++
    (d.sortable.map fun v => (declaration, .value v)).toList

/-- The attribute that holds the table of its own that a class with one stands for. -/
def holder (d : Declaration) : List (String × Attribute) :=
  (d.table.map fun _ => ("__table__", .value (.other "Table" ""))).toList

end Declaration

namespace Registry

/-! ### Tables -/

/-- The columns of a table, those that only some of its models have included. -/
def tableColumns (r : Registry) (table : String) : List Column :=
  (r.filter fun m => m.mapped && m.table = table).flatMap Model.columns

/-- The ways in which one of two tables refers to the other. -/
def links (one other : String) (mine theirs : List Column) : Nat :=
  (mine.filter fun c => c.refers = some other).length +
    (theirs.filter fun c => c.refers = some one).length

/-- The tables that the table of a new model continues: one of its own continues that of the parent,
to which a column of it refers, or else one from there refers back. -/
def bases (r : Registry) (d : Declaration) (parent : Option Model) (columns : List Column) :
    List Base :=
  match d.table, parent with
  | _, none => []
  | none, some p => p.bases
  | some table, some p =>
    let link : Base := match columns.find? (·.refers = some p.table) with
      | some c => ⟨p.table, c.name, false⟩
      | none =>
        let back := (r.tableColumns p.table).find? (·.refers = some table)
        ⟨p.table, (back.map Column.name).getD "", true⟩
    link :: p.bases

/-- The columns of a new model with their tables: its own, and those of its parent. -/
def homes (parent : Option Model) (table : String) (columns : List Column) :
    List (String × String) :=
  columns.map (fun c => (c.name, table)) ++
    (parent.map fun p => p.homes.filter fun entry => p.view.columns.contains entry.1).getD []

/-! ### Members -/

/-- A column taken to the members that are there already. The name of a relation is
that of no column. -/
def addColumn (members : List (String × Attribute)) (column : String × Attribute) :
    Except ModelFault (List (String × Attribute)) :=
  match members.lookup column.1 with
  | none => .ok (members ++ [column])
  | some (.relation _) => .error (.memberTaken column.1)
  | some _ => .ok members

/-- Whether a member of a parent is hidden from a new child: what the child writes
itself never is, and otherwise the attribute in its place decides. -/
def isObstructed (r : Registry) (parent : String) (written : List (String × Attribute))
    (name : String) : Bool :=
  (written.lookup name).isNone && ((r.attribute? parent name).map Attribute.isObstacle).getD false

/-- The members of a new model: its own relations, what it inherits, and the columns
of its table. In the table of its parent it finds all columns of the parent, hidden
ones included. -/
def members (r : Registry) (parent : Option Model) (isOwn : Bool)
    (written : List (String × Attribute)) : Except ModelFault (List (String × Attribute)) :=
  let shown := written.filter fun entry => !isHidden entry.1
  let relations := shown.filter fun entry => entry.2.link?.isSome
  let there := (parent.map Model.members).getD []
  let isLeft (entry : String × Attribute) : Bool :=
    !r.isObstructed ((parent.map Model.name).getD "") written entry.1
  let inherited := there.filter fun entry =>
    (relations.lookup entry.1).isNone && isLeft entry
  let columns := (if isOwn then there.filter isLeft else there) ++ shown
  (columns.filter fun entry => entry.2.isColumn).foldlM addColumn (relations ++ inherited)

/-! ### New models -/

/-- Why the columns of a new model cannot stand in its table, if they cannot. -/
def columnFault? (r : Registry) (d : Declaration) (parent : Option Model) (table : String)
    (columns : List Column) : Option ModelFault :=
  let names := columns.map Column.name
  let isTaken (name : String) : Bool :=
    d.table.isNone && (r.tableColumns table).any (·.name = name)
  match names.find? isTaken, parent with
  | some name, _ => some (.columnTaken name)
  | none, some p =>
    if names.contains "" then some .unnamedColumn
    else if d.table.isNone then none
    else match links table p.table columns (r.tableColumns p.table) with
      | 0 => some .unlinked
      | 1 => none
      | _ => some .ambiguousLink
  | none, none =>
    if names.contains "" then some .unnamedColumn
    else if columns.contains ⟨primaryKey, none⟩ && !(d.columns.any (·.name = primaryKey)) then none
    else some .noPrimaryKey

/-- Why a model cannot be declared, if it cannot: it needs a table, and that must
not be the one of another model. -/
def fault? (r : Registry) (d : Declaration) (parent : Option Model) (table : String)
    (written : List (String × Attribute)) (columns : List Column) : Option ModelFault :=
  if written.any (·.1 == "metadata") then some (.reservedName "metadata")
  else match d.table, parent with
    | none, none => some .noTable
    | some name, _ =>
      if r.any fun m => m.mapped && m.table = name then some (.tableTaken name)
      else r.columnFault? d parent table columns
    | none, some _ => r.columnFault? d parent table columns

/-- A model declared after the others. A child of a class that stands for no table
stands for none either. -/
def declareModel (r : Registry) (d : Declaration) : Except Failure Registry := do
  let parent ← d.parent?.mapM r.find
  let table := d.table.getD ((parent.map Model.table).getD "")
  let written := d.written parent
  let columns := (written.filter fun entry => !isHidden entry.1).filterMap fun entry =>
    match entry.2 with
    | .column c => some c
    | _ => none
  let isMapped := d.origin ≠ .plain && (parent.map Model.mapped).getD true
  let m : Model := {
    name := d.name
    title := d.name
    parent := d.parent?
    mapped := isMapped
    sortable := decide (d.origin = .root true)
    table := table
    bases := r.bases d parent columns
    columns := columns
    homes := homes parent table columns
    members := []
    attributes := d.values ++ written }
  if !isMapped then return m :: r
  else match r.fault? d parent table written columns, r.members parent d.table.isSome written with
    | some fault, _ => .error (.declaration fault)
    | none, .error fault => .error (.declaration fault)
    | none, .ok members =>
      return { m with
        members := members
        attributes := putAll (· == ·) (m.attributes ++ d.holder ++ members) } :: r

end Registry

end QueryOrder
