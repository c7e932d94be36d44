/-
Custom orderings that are described by what they do.

* `Act`: five things that a custom ordering may do with a statement;
* `Act.run`, `Act.runWithout`: each of them done with a statement, and without one;
* `Orderings.ofActs`: custom orderings that do what is listed under their serial numbers.
-/
import QueryOrder.Scope.Run

namespace QueryOrder

/-- What a custom ordering does with the statement it is given. -/
inductive Act where
  /-- It sorts by these expressions, and by nothing else. -/
  | order (terms : List String)
  /-- It sorts by these expressions after the ones already there. -/
  | append (terms : List String)
  /-- It hands the statement back. -/
  | same
  /-- It answers with something that is no statement. -/
  | answer (v : Value)
  /-- It fails. -/
  | fail (failure : Failure)

namespace Act

/-- Expressions that are all sorted in one direction, as one term. -/
def term (terms : List String) (d : Direction) : OrderTerm :=
  .text (", ".intercalate (terms.map fun t => t ++ " " ++ d.sql))

/-- An act done with a statement and a direction. -/
def run (act : Act) (s : Statement) (d : Direction) : Except Failure Reply :=
  match act with
  | order terms => .ok (.statement (s.orderBy (term terms d)))
  | append terms => .ok (.statement (s.appendOrder (term terms d)))
  | same => .ok .same
  | answer v => .ok (.answer v)
  | fail failure => .error failure

/-- An act done without a statement: it cannot sort nothing, and hands back nothing where it
would hand back the statement. -/
def runWithout : Act → Except Failure Value
  | order _ => .error (.shape (.noAttribute Value.null.kind "order_by"))
  | append _ => .error (.shape (.noAttribute Value.null.kind "order_by"))
  | same => .ok .null
  | answer v => .ok v
  | fail failure => .error failure

end Act

/-- Custom orderings that do what is listed under their serial numbers. One that is not listed
hands the statement back. -/
@[reducible]
def Orderings.ofActs (acts : List (Nat × Act)) : Orderings where
  run scope s d := match scope with
    | .given serial _ _ => ((acts.lookup serial).getD .same).run s (.ofText (some d))
    | .entryPoint => .ok .same

end QueryOrder
