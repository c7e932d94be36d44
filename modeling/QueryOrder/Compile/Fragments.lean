/-
From tokens to the fragments of an order.

* `fragment`: the fragment of one field, if the rules allow it;
* `fragments`: the fragments of tokens, in the requested order.
-/
import QueryOrder.Gate
import QueryOrder.Model.Entity
import QueryOrder.Plan
import QueryOrder.Token

namespace QueryOrder.Compile

/-- The message for a field outside the allow-list. -/
def disallowedColumn : String :=
  "detected a disallowed sortable column: %(field)s. Ensure you add it to " ++
  "the allowed columns with column_sortable_by('%(field)s'). In lenient mode " ++
  "the invalid column is ignored and allowed columns are processed."

/-- The message for a relation that the model lacks. -/
def unknownRelation : String :=
  "relationship '%(field)s' doesn't exist on model %(model)s. " ++
  "Check the relationship name in '%(column)s'."

/-- The fragment of a field. It has to be allowed before its form is looked at,
and a relation has to be one of the model. -/
def fragment (e : Entity) (a : AllowList) (g : Gate) (field : String) (d : Direction) :
    Traced (Option Fragment) :=
  if a.allows field then
    match Field.ofColumn field with
    | .related relation column => do
      Traced.emit .lookup
      if e.hasRelation relation then
        return some (.ofRelated relation column d)
      else
        g.violation .unknownRelation unknownRelation relation false
          [("model", .text e.name), ("column", .text field)]
        return none
    | f => pure (some (.ofColumn e.table.name f.text d))
  else do
    g.violation .disallowed disallowedColumn field false []
    return none

/-- The fragments of tokens, in the requested order. -/
def fragments (e : Entity) (a : AllowList) (g : Gate) : List Token → Traced (List Fragment)
  | [] => pure []
  | t :: rest => do
    let first ← fragment e a g t.field t.direction
    let others ← fragments e a g rest
    return first.toList ++ others

end QueryOrder.Compile
