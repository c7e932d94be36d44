/-
Models as a sort sees them.

* `Owner`: the name of a model and all its attributes, inherited ones included;
* `Entity`: an owner with its table and its relations;
* `Registry.owner`, `Registry.entity`: the view of a model in a registry;
* `Registry.relationFault?`: why the relations of the models lead nowhere, if they do;
* `Registry.declared`: the allow-list that a model declares;
* `Registry.join`: how the rows of a model are joined over a relation;
* `Registry.selectAll`: a statement over the rows of a model.
-/
import QueryOrder.AllowList.Declare
import QueryOrder.Model.Declare

namespace QueryOrder

/-- The name of a model and all its attributes, the nearest first. -/
structure Owner where
  name : String
  attributes : List (String × Attribute)

/-- A model over a table, with its relations. Each can be joined, or else the attempt
fails since the attribute of that name is no longer a relation. -/
structure Entity extends Owner where
  table : Table
  relations : List (String × Except Failure Join)

namespace Entity

/-- Whether a model has a relation. -/
def hasRelation (e : Entity) (name : String) : Bool :=
  (e.relations.lookup name).isSome

/-- The join of a relation that a statement asks for. -/
def joinOf (e : Entity) (name : String) : Except Failure Join :=
  (e.relations.lookup name).getD (.error (.missingName name))

end Entity

namespace Registry

/-! ### Relations -/

/-- The rows of a model, by its name. -/
def rows (r : Registry) (model : String) : Rows :=
  match r.lineage model with
  | m :: _ => m.rows
  | [] => ⟨"", []⟩

/-- The table that a column of a model is read from, by its name. -/
def home (r : Registry) (model column : String) : String :=
  match r.lineage model with
  | m :: _ => m.home column
  | [] => ""

/-- The columns of rows with their tables, which are listed where these are several. -/
def rowColumns (r : Registry) (rows : Rows) : List (String × String) :=
  if rows.bases.isEmpty then []
  else rows.tables.reverse.flatMap fun table =>
    (tableColumns r.reverse table).map fun c => (table, c.name)

/-- The join of the given rows over a relation to a target. A relation of which both models have
both sides in their tables is one to many, unless it leads from a model to itself. -/
def join (r : Registry) (source : Rows) (l : Link) (target : String) : Join :=
  let (keyModel, idModel) := if l.many then (l.target, l.owner) else (l.owner, l.target)
  let keyTable := r.home keyModel l.key
  let idTable := r.home idModel primaryKey
  let isShared := (r.rows l.target).tables.contains keyTable &&
    (r.rows l.owner).tables.contains idTable
  { name := l.name
    target := r.rows target
    columns := r.rowColumns (r.rows target)
    source := source
    key := l.key
    keyTable := keyTable
    idTable := idTable
    many := l.many || (isShared && l.owner ≠ l.target) }

/-- The join of a relation that a model has, over the attribute of that name. -/
def joinFor (r : Registry) (m : Model) (name target : String) : Except Failure Join :=
  match r.attribute? m.name name with
  | some (.relation l) => .ok (r.join m.rows l target)
  | some a => .error (.shape (.noAttribute a.toValue.bareKind "of_type"))
  | none => .error (.shape (.noClassAttribute m.title name))

/-- The relations that a model has or inherits. -/
def relations (r : Registry) (m : Model) : List (String × Except Failure Join) :=
  m.members.filterMap fun (name, a) =>
    a.link?.map fun l => (name, r.joinFor m name l.target)

/-- Why an attribute is no side of a relation, if it is none. -/
def sideFault? (r : Registry) (relation model name : String) : Option Failure :=
  match r.attributeOf model name with
  | .ok (.column _) => none
  | .ok _ => some (.declaration (.brokenRelation relation))
  | .error failure => some failure

/-- Why a relation of the first of some models leads nowhere, if it does. Of one
related row the primary key of that row is looked at first, and of many that of the
model itself. -/
def linkFault? (r here : Registry) (l : Link) : Option Failure :=
  match r.find l.target with
  | .error failure => some failure
  | .ok target =>
    let sides :=
      if l.many then
        here.sideFault? l.name l.owner primaryKey <|> r.sideFault? l.name l.target l.key
      else r.sideFault? l.name l.target primaryKey <|> here.sideFault? l.name l.owner l.key
    sides <|> if target.mapped then none else some (.declaration (.brokenRelation l.name))

/-- The first relation of some models that leads nowhere among all models. Earlier
models come first. -/
def relationFaultAmong? (r : Registry) : Registry → Option Failure
  | [] => none
  | m :: earlier =>
    relationFaultAmong? r earlier <|>
      (m.members.filterMap fun entry => entry.2.link?).findSome? fun l =>
        if l.owner = m.name then r.linkFault? (m :: earlier) l else none

/-- Why the relations of the models lead nowhere, if they do. -/
def relationFault? (r : Registry) : Option Failure :=
  r.relationFaultAmong? r

/-! ### Views -/

/-- A model as the holder of its attributes. -/
def owner (r : Registry) (model : String) : Except Failure Owner := do
  let m ← r.find model
  return ⟨m.title, r.attributes model⟩

/-- A model as the holder of a table. A class without one has no such view. -/
def entity (r : Registry) (model : String) : Except Failure Entity := do
  let m ← r.find model
  if m.mapped then return ⟨← r.owner model, m.view, r.relations m⟩
  else throw .notMapped

/-- The allow-list that a model declares, or inherits. Without a declaration
nothing is allowed. -/
def declared (r : Registry) (model : String) : Except Failure AllowList := do
  let _ ← r.find model
  AllowList.ofValue (((r.attribute? model declaration).map Attribute.toValue).getD .null)

/-! ### Statements -/

/-- All rows of a model. -/
def selectAll (r : Registry) (model : String) : Except Failure Statement := do
  let m ← r.find model
  if m.mapped then return .all m.view else throw (.statement .notSelectable)

end Registry

end QueryOrder
