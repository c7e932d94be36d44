/-
Specifications that ask for a custom ordering.

* `resolve`: the custom ordering of a field: the one registered for it, or else
  the method of the model;
* `rejectCombined`: a custom ordering beside other columns discards the whole
  specification;
* `dispatch`: the plan of a specification that consists of a custom ordering.
-/
import QueryOrder.Gate
import QueryOrder.Model.Entity
import QueryOrder.Plan
import QueryOrder.Token

namespace QueryOrder.Compile

/-- The message for a custom ordering beside other columns. -/
def combinedColumns : String :=
  "custom scope columns must be the only sort column, got '%(field)s'. " ++
  "In lenient mode the whole sort specification is ignored and no ordering " ++
  "is applied."

/-- The message for a custom ordering outside the allow-list. -/
def disallowedScope : String :=
  "detected a disallowed sortable column: %(field)s. Ensure you add it to " ++
  "the allowed columns with column_sortable_by('%(field)s'). In lenient mode " ++
  "the invalid column is ignored."

/-- The custom ordering of a field, if there is one: the one that is registered
for it, or else the model's attribute of that name, if it can be called. -/
def resolve? (o : Owner) (a : AllowList) (name : String) : Option Scope :=
  match a.scope? name with
  | some scope => some scope
  | none => (o.attributes.lookup (Field.method name)).bind Attribute.callable?

/-- The custom ordering of a field. That there is none is a mistake of the
configuration, on which no policy decides. -/
def resolve (o : Owner) (a : AllowList) (name : String) : Except Failure Scope :=
  match resolve? o a name with
  | some scope => .ok scope
  | none => .error (.missingScope o.name name (Field.method name))

/-- A custom ordering beside other columns discards the whole specification. -/
def rejectCombined (g : Gate) (spec : String) : Traced Plan := do
  g.violation .combined combinedColumns spec true []
  return .empty

/-- The plan of a specification that consists of a custom ordering. -/
def dispatch (o : Owner) (a : AllowList) (g : Gate) (raw : String) : Traced Plan :=
  let spec := Text.trimmed raw
  if spec.toList.contains ',' then rejectCombined g spec
  else
    let (name, direction) := Token.split spec.toList
    if a.allows name then do
      let scope ← resolve o a name
      Traced.emit (.debug .scopes
        ("Dispatching " ++ spec ++ " to custom scope " ++ Field.method name))
      return .ofCall ⟨name, scope, .ofText direction⟩
    else do
      g.violation .disallowed disallowedScope name false []
      return .empty

/-- The plan of a value that is taken for a custom ordering. Only a text can be
trimmed and cut. -/
def dispatchValue (o : Owner) (a : AllowList) (g : Gate) (raw : Value) : Traced Plan :=
  match raw.text?, raw with
  | some spec, _ => dispatch o a g spec
  | none, .bytes _ => .fail (.shape .bytesNotText)
  | none, v => .fail (.shape (.noAttribute v.bareKind "strip"))

end QueryOrder.Compile
