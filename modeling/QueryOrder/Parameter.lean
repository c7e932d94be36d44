/-
The sort parameter of a request.

* `Parameters`: the parameters of a request, a value of any kind or a container
  that may hold several values for a key;
* `Parameters.get`: what is given under a key;
* `Parameters.sortText`: the last text that is given under a key.
-/
import QueryOrder.Traced
import QueryOrder.Value.Mapping

namespace QueryOrder

/-- The parameters of a request. -/
inductive Parameters where
  /-- Pairs in the order of the request, where a key may occur again. -/
  | pairs (entries : List (Value × Value))
  /-- A mapping that has something under the name by which pairs are asked for all the values of
  a key. It cannot be called. -/
  | marked (entries : List (Value × Value)) (mark : { v : Value // v.callable? = none })
  /-- Any other value. Only a mapping can be asked for a key. -/
  | value (v : Value)

/-- The last value of a sequence, or nothing. -/
def lastOrNull (items : List Value) : Value :=
  items.getLast?.getD .null

namespace Parameters

/-- Whether there are any parameters. -/
def isTruthy : Parameters → Bool
  | pairs entries => !entries.isEmpty
  | marked entries _ => !entries.isEmpty
  | value v => v.isTruthy

/-- The values that pairs hold for a key, in order. -/
def valuesFor (key : String) (entries : List (Value × Value)) : List Value :=
  (entries.filter fun entry => entry.1.sameKey (.text key)).map (·.2)

/-- The value that a mapping holds for a key, or nothing. -/
def held (key : String) (entries : List (Value × Value)) : Value :=
  ((entries.find? fun entry => entry.1.sameKey (.text key)).map (·.2)).getD .null

/-- What is given under a key: of several values all of them, in a list. -/
def get (key : String) : Parameters → Except Failure Value
  | pairs entries => .ok (.list (valuesFor key entries))
  | marked entries _ => .ok (held key entries)
  | value v => match v.entries? with
    | some entries => .ok (held key entries)
    | none => .error (.shape (.noAttribute v.bareKind "get"))

/-- What a given value comes to: of a list or a tuple the last one. -/
def last : Value → Value
  | .list items => lastOrNull items
  | .tuple items => lastOrNull items
  | v => v

/-- The text that is given under a key, if there is one. What is given and is no
text is ignored, with a record. -/
def sortText (key : String) (parameters : Parameters) : Traced (Option Value) :=
  if parameters.isTruthy then do
    let v := last (← parameters.get key)
    match v.text?, v with
    | some _, _ => return some v
    | none, .null => return none
    | none, _ => do
      Traced.emit (.debug .binding
        ("Ignoring non-string " ++ key ++ " parameter: " ++ v.written))
      return none
  else pure none

end Parameters

end QueryOrder
