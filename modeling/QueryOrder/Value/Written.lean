/-
The written forms of values.

* `Value.written`: a value as one would write it down, texts between quotes;
* `AllowList.scopesValue`: the custom orderings of an allow-list as a mapping;
* `Value.shown`: a value as it is shown, where a text stands for itself.
-/
import QueryOrder.Decimal.Layout
import QueryOrder.Text.Quoted
import QueryOrder.Value.Basic

namespace QueryOrder

namespace Value

/-- Items between two marks, a comma between each two. -/
def enclosed (opening closing : String) (items : List String) : String :=
  opening ++ ", ".intercalate items ++ closing

/-- A tuple of one item is told from the item by a comma. -/
def writtenTuple : List String → String
  | [item] => "(" ++ item ++ ",)"
  | items => enclosed "(" ")" items

/-- A custom ordering as one would write it down. -/
def writtenScope (s : Scope) : String :=
  match s.form with
  | .function => "<function " ++ s.label ++ ">"
  | .method => "<bound method " ++ s.label ++ ">"
  | .other _ written => written

/-- A read-only mapping from names to custom orderings. -/
def writtenScopes (scopes : List (String × Scope)) : String :=
  "mappingproxy(" ++ enclosed "\x7b" "\x7d"
    (scopes.map fun (name, s) => Text.quote name ++ ": " ++ writtenScope s) ++ ")"

/-- The fields and the custom orderings of an allow-list. -/
def writtenAllowList (a : AllowList) : List String :=
  ["fields=" ++ writtenTuple (a.fields.map Text.quote), "scopes=" ++ writtenScopes a.scopes]

mutual

/-- A value as one would write it down. -/
def written : Value → String
  | null => "None"
  | bool true => "True"
  | bool false => "False"
  | int n => toString n
  | float x => x.text
  | text s => Text.quote s
  | bytes bs => Text.quoteBytes bs
  | list items => enclosed "[" "]" (writtenItems items)
  | tuple items => writtenTuple (writtenItems items)
  | dict entries => enclosed "\x7b" "\x7d" (writtenEntries entries)
  | mapping _ form _ => form
  | member _ enumeration name value =>
    "<" ++ enumeration ++ "." ++ name ++ ": " ++ written value ++ ">"
  | textMember enumeration name s =>
    "<" ++ enumeration ++ "." ++ name ++ ": " ++ Text.quote s ++ ">"
  | intMember enumeration name n =>
    "<" ++ enumeration ++ "." ++ name ++ ": " ++ toString n ++ ">"
  | scope s => writtenScope s
  | allowList a => "SortableFields" ++ enclosed "(" ")" (writtenAllowList a)
  | other _ form => form
termination_by structural v => v

/-- Each item written. -/
def writtenItems : List Value → List String
  | [] => []
  | item :: rest => written item :: writtenItems rest
termination_by structural items => items

/-- Each entry written, its key before its value. -/
def writtenEntries : List (Value × Value) → List String
  | [] => []
  | entry :: rest => writtenEntry entry :: writtenEntries rest
termination_by structural entries => entries

/-- An entry written, its key before its value. -/
def writtenEntry : Value × Value → String
  | (key, value) => written key ++ ": " ++ written value
termination_by structural entry => entry

end

/-- A value as it is shown: a text stands for itself, and a member for its name, unless it is an
integer, which is shown as its number. Integers are written out whatever their size: where there
is a limit to their digits, one past the limit has no shown form. -/
def shown : Value → String
  | text s => s
  | member _ enumeration name _ => enumeration ++ "." ++ name
  | textMember enumeration name _ => enumeration ++ "." ++ name
  | intMember _ _ n => toString n
  | allowList a => " ".intercalate (writtenAllowList a)
  | v => v.written

end Value

/-- The custom orderings of an allow-list as a value: a read-only mapping from their fields. -/
def AllowList.scopesValue (a : AllowList) : Value :=
  .mapping "mappingproxy" (Value.writtenScopes a.scopes)
    (a.scopes.map fun (name, s) => (.text name, .scope s))

end QueryOrder
