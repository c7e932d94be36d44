/-
What a model has under a name.

* `Column`, `Relation`: a column and a relation as they are written;
* `Link`: a relation together with the model that it is written on;
* `EntryPoint`: what a sortable model offers of its own;
* `Attribute`: a column, a relation, an entry point or any other value;
* `Attribute.callable?`, `Attribute.toValue`: an attribute as a custom ordering and
  as a value;
* `Attribute.filter`, `Attribute.order`: an attribute in the conditions and in the
  order of a statement.
-/
import QueryOrder.Statement.Basic
import QueryOrder.Text.Cut
import QueryOrder.Value.Mapping

namespace QueryOrder

/-- A column. It may refer to the primary key of a table. -/
structure Column where
  name : String
  refers : Option String
deriving DecidableEq, Repr

/-- A relation to another model. Of one related row, `key` is the column of this
model that refers to it; of many, the column of the other model that refers
back. -/
structure Relation where
  name : String
  target : String
  key : String
  many : Bool
deriving DecidableEq, Repr

/-- A relation together with the model that it is written on. -/
structure Link extends Relation where
  owner : String
deriving DecidableEq, Repr

/-- What a sortable model offers of its own. -/
inductive EntryPoint where
  /-- The sort of the model by what it declares. -/
  | sort
  /-- The declaration of what it can be sorted by. -/
  | declare
  /-- The fields that it declares. -/
  | fields
deriving DecidableEq, Repr

/-- The name of an entry point. -/
def EntryPoint.name : EntryPoint → String
  | sort => "sorted_by_columns"
  | declare => "column_sortable_by"
  | fields => "column_sortable_allowed_fields"

/-- What a model has under a name. -/
inductive Attribute where
  | value (v : Value)
  | column (c : Column)
  | relation (l : Link)
  | entry (e : EntryPoint)

/-- The primary key of every table. -/
def primaryKey : String := "id"

/-- Whether a name keeps an attribute out of the table: neither a column nor a
relation of such a name is one of the model. -/
def isHidden (name : String) : Bool :=
  Text.startsWith "__" name || Text.startsWith "_sa_" name

namespace Attribute

/-! ### What an attribute is -/

/-- The name of an attribute's type. -/
def kind : Attribute → String
  | value v => v.kind
  | column _ => "InstrumentedAttribute"
  | relation _ => "InstrumentedAttribute"
  | entry _ => (Value.scope .entryPoint).kind

/-- Whether an attribute is a column. -/
def isColumn : Attribute → Bool
  | column _ => true
  | _ => false

/-- Whether an attribute is a column or a relation. -/
def isMember : Attribute → Bool
  | column _ => true
  | relation _ => true
  | _ => false

/-- The relation that an attribute is. -/
def link? : Attribute → Option Link
  | relation l => some l
  | _ => none

/-- Whether an attribute hides a column or a relation of its name from the models
that inherit from its own. A null does not. -/
def isObstacle : Attribute → Bool
  | value .null => false
  | value _ => true
  | column _ => false
  | relation _ => false
  | entry _ => true

/-- The custom ordering that an attribute is, if it can be called as one. -/
def callable? : Attribute → Option Scope
  | value v => v.callable?
  | column _ => none
  | relation _ => none
  | entry .sort => some .entryPoint
  | entry _ => none

/-- An attribute as a value. Of one that is made for the model only the type is
known. -/
def toValue : Attribute → Value
  | value v => v
  | a => .other a.kind ""

/-! ### Attributes in statements -/

/-- The condition that an attribute equals a value. A value of its own is compared
at once, and a relation can only be compared with nothing. -/
def filter (a : Attribute) (v : Value) : Except Failure Filter :=
  match a, v with
  | column c, v => .ok (.equals c.name v)
  | relation l, .null =>
    if l.many then .error (.statement .notColumn) else .ok (.equals l.key .null)
  | relation l, _ => .error (.statement (if l.many then .notSingle else .notColumn))
  | a, v => .ok (.constant (a.toValue.sameKey v))

/-- A statement with an attribute after the order already there. A text names a
column, and nothing takes the order away. -/
def order (a : Attribute) (s : Statement) : Except Failure Statement :=
  match a with
  | column c => .ok (s.appendOrder (.column c.name))
  | value .null => .ok s.unordered
  | value v => match v.text? with
    | some name => .ok (s.appendOrder (.column name))
    | none => .error (.statement .notColumn)
  | _ => .error (.statement .notColumn)

end Attribute

end QueryOrder
