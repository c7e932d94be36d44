/-
The declaration of allow-lists.

* `AllowList.ofParts`: an allow-list from its fields and its registered custom
  orderings, each given as a value of any kind;
* `AllowList.declare`: the same from a list of fields, where the orderings may
  also be left out or be a sequence of pairs, and `AllowList.replace` in the place of
  another allow-list;
* `AllowList.ofValue`: an allow-list from a declared value;
* `AllowList.reservedFault?`, `AllowList.scopeFault?`: the reasons why a declaration is refused.
-/
import QueryOrder.Field
import QueryOrder.Value.Mapping

namespace QueryOrder

namespace AllowList

/-! ### Names -/

/-- The field that a value names: a member of an enumeration names its value if
that is a text, and any other value names its shown form. -/
def fieldName : Value → String
  | .textMember _ _ s => s
  | .member serial enumeration name value =>
    value.text?.getD (Value.member serial enumeration name value).shown
  | v => v.shown

/-- The fields that values name, each once and in the order of their first
naming. -/
def fieldNames (values : List Value) : List String :=
  (values.map fieldName).eraseDups

/-- The fields of a declaration: none if it is not given, one if it is a text,
and otherwise those that its items name. -/
def declaredFields (fields : Value) : Except Failure (List String) :=
  match fields with
  | .null => .ok []
  | v => match v.text? with
    | some s => .ok [s]
    | none => do return fieldNames (← v.items)

/-! ### Custom orderings -/

/-- The custom orderings of entries, under the fields that their keys name. A
later entry for the same field takes the place of an earlier one. -/
def namedScopes (entries : List (Value × Value)) : List (String × Scope) :=
  putAll (· == ·) (entries.filterMap fun (key, value) =>
    value.callable?.map fun s => (fieldName key, s))

/-- The custom orderings of a declaration, which is a mapping of whatever type. Each of them can
be called. -/
def declaredScopes (scopes : Value) : Except Failure (List (String × Scope)) :=
  match scopes.entries?, scopes with
  | some entries, _ =>
    match entries.find? fun (_, value) => value.callable?.isNone with
    | some (key, value) =>
      .error (.configuration (.scopeNotCallable key.written value.written))
    | none => .ok (namedScopes entries)
  | none, .null => .ok []
  | none, v => .error (.configuration (.scopesNotMapping v.kind))

/-- Why a custom ordering cannot be registered under a name, if it cannot. -/
def scopeFault? (fields : List String) (name : String) : Option ConfigurationFault :=
  if !Field.isCustom name then some (.scopeNotCustom name)
  else if fields.contains name then none
  else some (.scopeUndeclared name fields)

/-! ### Declarations -/

/-- The reserved names among the fields, if there are any. -/
def reservedFault? (fields : List String) : Option ConfigurationFault :=
  match Field.reserved.filter fields.contains with
  | [] => none
  | names => some (.reserved names)

/-- Fields are refused that use a reserved name. -/
def checkReserved (fields : List String) : Except Failure Unit :=
  match reservedFault? fields with
  | some fault => .error (.configuration fault)
  | none => .ok ()

/-- Custom orderings are refused that stand under no declared custom field. -/
def checkScopes (fields : List String) (scopes : List (String × Scope)) : Except Failure Unit :=
  match scopes.findSome? fun (name, _) => scopeFault? fields name with
  | some fault => .error (.configuration fault)
  | none => .ok ()

/-- An allow-list from its two parts. The fields are looked at first, then the
custom orderings, then the two together. -/
def ofParts (fields scopes : Value) : Except Failure AllowList := do
  let fields ← declaredFields fields
  checkReserved fields
  let scopes ← declaredScopes scopes
  checkScopes fields scopes
  return ⟨fields, scopes⟩

/-- An allow-list from a list of fields. The custom orderings may be left out, or
be a sequence of pairs. -/
def declare (fields : List Value) (scopes : Value) : Except Failure AllowList := do
  ofParts (.tuple fields) (.dict (← scopes.entries))

/-- An allow-list declared in the place of another one, of which nothing is kept. -/
def replace (_ : AllowList) (fields : List Value) (scopes : Value) : Except Failure AllowList :=
  declare fields scopes

/-- An allow-list from a declared value: one that is an allow-list stands for
itself, one that is not given allows nothing, and any other lists its fields. -/
def ofValue : Value → Except Failure AllowList
  | .null => .ok empty
  | .allowList a => .ok a
  | v => match v.items? with
    | some items => declare items .null
    | none => .error (.shape (.notSpreadable v.kind))

/-! ### What cannot be done -/

/-- Whether a value is one of the fields. Only a text can be. -/
def containsValue (a : AllowList) (v : Value) : Bool :=
  a.fields.any fun field => v.sameKey (.text field)

/-- A declared allow-list does not take another value for one of its parts. -/
def assign (_ : AllowList) : Except Failure AllowList :=
  .error .frozen

/-- Nor does its mapping of custom orderings take another entry. -/
def assignScope (_ : AllowList) : Except Failure AllowList :=
  .error (.shape (.readOnly "mappingproxy"))

/-- The custom ordering of a field, which has to be registered. -/
def scopeOf (a : AllowList) (field : String) : Except Failure Scope :=
  match a.scope? field with
  | some scope => .ok scope
  | none => .error (.missingName field)

end AllowList

end QueryOrder
