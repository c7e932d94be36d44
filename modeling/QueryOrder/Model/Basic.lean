/-
Models and their hierarchy.

A model is a class over a table. It may inherit from another one, and what it
does not have itself it takes from the nearest ancestor that has it.

* `Model`: a model with its members and its own attributes;
* `Registry`: the models there are, the latest first;
* `Registry.find`, `Registry.lineage`: a model, and a model with its ancestors, the
  nearest first;
* `Registry.attribute?`: an attribute of a model, its own or inherited;
* `Registry.setAttribute`, `Registry.deleteAttribute`: the attributes of a model
  changed. Its members stay what they are for its table.
-/
import QueryOrder.Model.Attribute

namespace QueryOrder

/-- A class, with what it has of its own. -/
structure Model where
  name : String
  /-- The name that messages call it by. -/
  title : String
  parent : Option String
  /-- Whether it stands for a table at all. -/
  mapped : Bool
  /-- Whether it has the entry points of a sortable model. -/
  sortable : Bool
  /-- The name of its table, which may be that of its parent. -/
  table : String
  /-- The tables that its table continues, the nearest first. -/
  bases : List Base
  /-- The columns that it adds to its table. -/
  columns : List Column
  /-- Its columns, inherited ones included, with their tables. One that several tables have comes
  with the nearest of them first. -/
  homes : List (String × String)
  /-- The columns and the relations that it has for its table, inherited ones
  included. -/
  members : List (String × Attribute)
  /-- The attributes of its own. -/
  attributes : List (String × Attribute)

/-- The models there are, the latest first. -/
abbrev Registry := List Model

/-- The attribute that declares what a model can be sorted by. -/
def declaration : String := "__sortable__"

/-- The attributes that come with the entry points of a sortable model. -/
def entryAttributes : List (String × Attribute) :=
  (declaration, .value (.allowList .empty)) ::
    [EntryPoint.sort, .declare, .fields].map fun e => (e.name, .entry e)

/-- The attributes in which a class is named, whose values are texts. -/
def naming : List String := ["__name__", "__qualname__"]

/-- The attributes that no class can be without. -/
def lasting : List String := naming ++ ["__module__", "__doc__", "__bases__"]

namespace Model

/-- What a model brings with it: its own attributes before those of the entry
points. -/
def brings (m : Model) : List (String × Attribute) :=
  m.attributes ++ if m.sortable then entryAttributes else []

/-- The rows of a model. -/
def rows (m : Model) : Rows := ⟨m.table, m.bases⟩

/-- The table that a column of a model is read from. -/
def home (m : Model) (column : String) : String :=
  (m.homes.lookup column).getD m.table

/-- The rows of a model, with the columns among its members. -/
def view (m : Model) : Table where
  rows := m.rows
  cells := (m.members.filter fun entry => entry.2.isColumn).map fun (column, _) =>
    ⟨column, (m.homes.filter fun entry => entry.1 == column).map (·.2)⟩

/-- An attribute of a model's own set. The name of a class is no attribute beside
the others. -/
def setAttribute (m : Model) (name : String) (v : Value) : Except Failure Model :=
  if naming.contains name then
    match v.text? with
    | some s => .ok (if name = "__name__" then { m with title := s } else m)
    | none => .error (.shape (.nameNotText m.title name v.kind))
  else .ok { m with attributes := putBy (· == ·) m.attributes name (.value v) }

/-- An attribute of a model's own taken away. A column or a relation of a model with
a table cannot be. -/
def deleteAttribute (m : Model) (name : String) : Except Failure Model :=
  if lasting.contains name then .error (.shape (.permanent m.title name))
  else match m.attributes.lookup name with
    | none => .error (.shape (.noClassAttribute m.title name))
    | some a =>
      if m.mapped && a.isMember then .error (.declaration .permanent)
      else .ok { m with attributes := m.attributes.filter fun entry => entry.1 != name }

end Model

namespace Registry

/-! ### Inheritance -/

/-- A model and its ancestors, the nearest first. A parent was there before its
children. -/
def lineage : Registry → String → List Model
  | [], _ => []
  | m :: earlier, name =>
    if m.name = name then
      m :: match m.parent with
        | some parent => lineage earlier parent
        | none => []
    else lineage earlier name

/-- The model of a name: of several the latest. -/
def find (r : Registry) (model : String) : Except Failure Model :=
  match r.lineage model with
  | m :: _ => .ok m
  | [] => .error (.missingName model)

/-- What a model brings with it or inherits, the nearest first. -/
def attributes (r : Registry) (model : String) : List (String × Attribute) :=
  (r.lineage model).flatMap Model.brings

/-- An attribute of a model, its own or inherited. -/
def attribute? (r : Registry) (model name : String) : Option Attribute :=
  (r.attributes model).lookup name

/-- An attribute that a model has to have. -/
def attributeOf (r : Registry) (model name : String) : Except Failure Attribute := do
  let m ← r.find model
  match r.attribute? model name with
  | some a => return a
  | none => .error (.shape (.noClassAttribute m.title name))

/-! ### Changes -/

/-- The model of a name changed, and no other one. -/
def modify (model : String) (change : Model → Except Failure Model) :
    Registry → Except Failure Registry
  | [] => .error (.missingName model)
  | m :: earlier =>
    if m.name = model then do return (← change m) :: earlier
    else do return m :: (← modify model change earlier)

/-- An attribute of a model set. Its ancestors keep theirs. -/
def setAttribute (r : Registry) (model name : String) (v : Value) : Except Failure Registry :=
  modify model (·.setAttribute name v) r

/-- An attribute of a model taken away. Only an attribute of its own can be. -/
def deleteAttribute (r : Registry) (model name : String) : Except Failure Registry :=
  modify model (·.deleteAttribute name) r

end Registry

end QueryOrder
