/-
Plans applied to statements.

* `Plan.apply`: a plan applied to a statement;
* `applySpec`: a specification compiled and applied.
-/
import QueryOrder.Compile.Basic

namespace QueryOrder

/-- The related tables of a plan joined to a statement, in the order of the plan. -/
def joinAll (e : Entity) : List String → Statement → Except Failure Statement
  | [], s => .ok s
  | name :: rest, s => do joinAll e rest (s.join (← e.joinOf name))

/-- A plan applied to a statement. A custom ordering gets the statement as it is
and answers for itself, and a plan that changes nothing hands the statement back.
Any other one joins its tables and replaces the order. -/
def Plan.apply [Orderings] (e : Entity) (p : Plan) (s : Statement) : Traced Reply :=
  match p.custom with
  | some call => call.run s
  | none =>
    if p.isEmpty then pure .same
    else do
      if !p.joins.isEmpty then Traced.emit .lookup
      let joined ← joinAll e p.joins s
      return .statement (joined.orderBy (.text p.orderBy))

/-- A specification compiled and applied to a statement. -/
def applySpec [Orderings] (e : Entity) (a : AllowList) (g : Gate) (raw : Value) (s : Statement) :
    Traced Reply := do
  let plan ← Compile.compile e a g raw
  plan.apply e s

end QueryOrder
