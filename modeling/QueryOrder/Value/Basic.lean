/-
The values that a sort may be given.

A request, a declaration or a policy can hold anything, so that the rules for
them speak of values of any kind.

* `Value`: the kinds of values;
* `Value.text?`: the text of a value that is one, a member of a text enumeration
  included;
* `Value.entries?`, `Value.callable?`: a value as a mapping and as a custom ordering;
* `Value.kind`: the name of a value's type, and `Value.bareKind` that of what a
  method is made from;
* `Value.isTruthy`: whether a value counts as given.
-/
import QueryOrder.AllowList.Basic
import QueryOrder.Decimal.Double

namespace QueryOrder

/-- A value of any kind. -/
inductive Value where
  | null
  | bool (b : Bool)
  | int (n : Int)
  | float (x : Double)
  | text (s : String)
  | bytes (bs : List UInt8)
  | list (items : List Value)
  | tuple (items : List Value)
  /-- A mapping in the order in which its keys were first given. -/
  | dict (entries : List (Value × Value))
  /-- A mapping of another type, of which the written form is known, too. -/
  | mapping (kind written : String) (entries : List (Value × Value))
  /-- A member of an enumeration. Two members that are written alike are still two:
  a serial number tells them apart. -/
  | member (serial : Nat) (enumeration name : String) (value : Value)
  /-- A member of an enumeration of texts, which is a text itself. -/
  | textMember (enumeration name text : String)
  /-- A member of an enumeration of integers, which is an integer itself. -/
  | intMember (enumeration name : String) (n : Int)
  /-- A value that can be called, and may be a custom ordering. -/
  | scope (s : Scope)
  | allowList (a : AllowList)
  /-- Any other value, which cannot be called and is no mapping. Only its type and its written
  form are known. -/
  | other (kind written : String)

namespace Value

/-- The text of a value that is one. -/
def text? : Value → Option String
  | text s => some s
  | textMember _ _ s => some s
  | _ => none

/-- The custom ordering that a value is, if it can be called at all. -/
def callable? : Value → Option Scope
  | scope s => some s
  | _ => none

/-- The entries of a value that is a mapping. -/
def entries? : Value → Option (List (Value × Value))
  | dict entries => some entries
  | mapping _ _ entries => some entries
  | _ => none

/-- The name of a value's type. -/
def kind : Value → String
  | null => "NoneType"
  | bool _ => "bool"
  | int _ => "int"
  | float _ => "float"
  | text _ => "str"
  | bytes _ => "bytes"
  | list _ => "list"
  | tuple _ => "tuple"
  | dict _ => "dict"
  | mapping kind _ _ => kind
  | member _ enumeration _ _ => enumeration
  | textMember enumeration _ _ => enumeration
  | intMember enumeration _ _ => enumeration
  | scope s => s.form.kind
  | allowList _ => "SortableFields"
  | other kind _ => kind

/-- The name of the type that an attribute is looked up in. A method passes the
lookup on to its function. -/
def bareKind : Value → String
  | scope s => match s.form with
    | .method => Form.function.kind
    | form => form.kind
  | v => v.kind

/-- Whether a value counts as given: nothing, zero and what is empty do not. -/
def isTruthy : Value → Bool
  | null => false
  | bool b => b
  | int n => n != 0
  | float x => !x.isZero
  | text s => s != ""
  | bytes bs => !bs.isEmpty
  | list items => !items.isEmpty
  | tuple items => !items.isEmpty
  | dict entries => !entries.isEmpty
  | mapping _ _ entries => !entries.isEmpty
  | member _ _ _ _ => true
  | textMember _ _ s => s != ""
  | intMember _ _ n => n != 0
  | scope _ => true
  | allowList _ => true
  | other _ _ => true

end Value

end QueryOrder
