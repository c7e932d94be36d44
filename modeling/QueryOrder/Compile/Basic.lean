/-
The compilation of sort specifications.

* `compile`: the plan that a value given as a specification comes to;
* `isBlank`: the values that ask for no order;
* `asksCustom`: the specifications that are custom orderings as a whole.
-/
import QueryOrder.Compile.Dispatch
import QueryOrder.Compile.Fragments

namespace QueryOrder.Compile

/-- Whether a value asks for no order: it is no text, or a blank one. -/
def isBlank (raw : Value) : Bool :=
  match raw.text? with
  | some s => (Text.trim s.toList).isEmpty
  | none => true

/-- The tokens of a value. What is no text has none. -/
def tokens (raw : Value) : List Token :=
  match raw.text? with
  | some s => Token.parse s
  | none => []

/-- Whether a value is a custom ordering as a whole. -/
def asksCustom (raw : Value) : Bool :=
  match raw.text? with
  | some s => Field.isCustom (Text.trimmed s)
  | none => false

/-- The record of a compilation. -/
def record (e : Entity) (raw : Value) (p : Plan) : String :=
  "Compiled sort " ++ raw.written ++ " for " ++ e.name ++ ": order_by=" ++
    Text.quote p.orderBy ++ " joins=" ++ Value.writtenTuple (p.joins.map Text.quote)

/-- The plan of a specification. One that starts as a custom ordering has to be
one as a whole, and in no other may a custom ordering occur. -/
def compileText (e : Entity) (a : AllowList) (g : Gate) (raw : Value) (spec : String) :
    Traced Plan :=
  if Field.isCustom (Text.trimmed spec) then dispatch e.toOwner a g spec
  else
    let tokens := Token.parse spec
    if tokens.any fun t => Field.isCustom t.field then rejectCombined g (Text.trimmed spec)
    else do
      let plan := Plan.ofFragments (← fragments e a g tokens)
      Traced.emit (.debug .compiler (record e raw plan))
      return plan

/-- The plan that a value given as a specification comes to. A blank one changes
nothing. -/
def compile (e : Entity) (a : AllowList) (g : Gate) (raw : Value) : Traced Plan :=
  match raw.text? with
  | some spec => if isBlank raw then pure .empty else compileText e a g raw spec
  | none => pure .empty

end QueryOrder.Compile
