/-
The fields of a sort specification.

A field names a column of the sorted table, a column of a related one as
`relation__column`, or a custom ordering as `c_name`.

* `Field.ofText`, `Field.ofColumn`: the kind of a field, and its kind when it is
  known to be no custom one;
* `Field.text`: a field written back;
* `text_ofColumn`: nothing of the name is lost.
-/
import QueryOrder.Text.Cut

namespace QueryOrder

/-- What a field of a sort specification names. -/
inductive Field where
  /-- A column of the sorted table itself. -/
  | column (name : String)
  /-- A column of the table that a relation leads to. -/
  | related (relation column : String)
  /-- A custom ordering. -/
  | custom (name : String)
deriving DecidableEq, Repr

namespace Field

/-! ### Custom orderings -/

/-- What the name of a custom ordering starts with. -/
def customMark : String := "c_"

/-- What the name of a model's ordering method starts with. -/
def methodMark : String := "sorted_by_"

/-- The custom orderings that no allow-list may declare: the method of
`c_columns` would be the sort itself. -/
def reserved : List String := ["c_columns"]

/-- Whether a field names a custom ordering. -/
def isCustom (field : String) : Bool :=
  Text.startsWith customMark field

/-- The name of a custom ordering without its first two characters. -/
def suffix (name : String) : String :=
  String.ofList (name.toList.drop 2)

/-- The model's method for a custom ordering. -/
def method (name : String) : String :=
  methodMark ++ suffix name

/-! ### Classification -/

/-- The kind of a field that names no custom ordering. Only the first double
underscore separates a relation from its column. -/
def ofColumn (field : String) : Field :=
  match Text.cut ['_', '_'] field.toList with
  | some (relation, name) => .related (String.ofList relation) (String.ofList name)
  | none => .column field

/-- The kind of a field. -/
def ofText (field : String) : Field :=
  if isCustom field then .custom field else ofColumn field

/-- A field written back. -/
def text : Field → String
  | .column name => name
  | .related relation name => relation ++ "__" ++ name
  | .custom name => name

/-- Nothing of a column's name is lost by its classification. -/
theorem text_ofColumn (field : String) : (ofColumn field).text = field := by
  unfold ofColumn
  split
  · next r c h =>
    rw [← String.toList_inj]
    simp [text, Text.append_of_cut h]
  · rfl

end Field

end QueryOrder
