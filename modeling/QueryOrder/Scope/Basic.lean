/-
Custom orderings.

A custom ordering is a function from a statement and a direction that a model or
an allow-list provides. It is code from outside: what it does is not known here.

* `Form`: the kinds of things that can be called;
* `Scope`: a custom ordering, or the sort of a model in the place of one;
* `Scope.label`, `Scope.form`: its name and its kind.
-/

namespace QueryOrder

/-- The kinds of things that can be called. -/
inductive Form where
  | function
  | method
  /-- Anything else that can be called. Its type and its written form are known. -/
  | other (kind written : String)
deriving DecidableEq, Repr

/-- The name of the type of such a thing. -/
def Form.kind : Form → String
  | function => "function"
  | method => "method"
  | other kind _ => kind

/-- What can be called as a custom ordering. -/
inductive Scope where
  /-- One that is given from outside. Two of them that look the same are still two: a
  serial number tells them apart. -/
  | given (serial : Nat) (label : String) (form : Form)
  /-- The sort of a model, found under the name of an ordering method. -/
  | entryPoint
deriving DecidableEq, Repr

namespace Scope

/-- The name that a custom ordering is known by. -/
def label : Scope → String
  | given _ label _ => label
  | entryPoint => "sorted_by_columns"

/-- The kind of a custom ordering. -/
def form : Scope → Form
  | given _ _ form => form
  | entryPoint => .method

end Scope

end QueryOrder
