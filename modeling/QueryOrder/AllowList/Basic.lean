/-
Allow-lists.

* `AllowList`: the fields that a model can be sorted by, in the order of their
  declaration, and the custom orderings registered for some of them;
* `AllowList.allows`: whether a field is among them.
-/
import QueryOrder.Scope.Basic

namespace QueryOrder

/-- The fields that a model can be sorted by, with the custom orderings that are
registered for some of them. -/
structure AllowList where
  fields : List String
  scopes : List (String × Scope)
deriving DecidableEq, Repr

namespace AllowList

/-- The allow-list that allows nothing. -/
def empty : AllowList := ⟨[], []⟩

/-- Whether a field may be sorted by. -/
def allows (a : AllowList) (field : String) : Bool :=
  a.fields.contains field

/-- The custom ordering registered for a field. -/
def scope? (a : AllowList) (field : String) : Option Scope :=
  a.scopes.lookup field

/-- Only a declared field is allowed. -/
theorem allows_iff {a : AllowList} {field : String} :
    a.allows field = true ↔ field ∈ a.fields := by
  simp [allows]

end AllowList

end QueryOrder
