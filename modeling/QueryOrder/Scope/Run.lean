/-
Custom orderings at work.

* `Reply`: what a sort hands back;
* `Orderings`: what the custom orderings do that are given from outside;
* `Scope.run`: a custom ordering called with a statement and a direction.
-/
import QueryOrder.Direction
import QueryOrder.Failure
import QueryOrder.Statement.Basic

namespace QueryOrder

/-- What a sort hands back. -/
inductive Reply where
  /-- The very statement that it was given. -/
  | same
  /-- A new statement. -/
  | statement (s : Statement)
  /-- A value that is no statement. -/
  | answer (v : Value)

/-- The statement that is there after a reply to the given one, if it is one. -/
def Reply.statement? (given : Statement) : Reply → Option Statement
  | same => some given
  | statement s => some s
  | answer _ => none

/-- What the custom orderings do that are given from outside: each of them takes a statement and
the text of a direction. It can make any statement of them, hand back any other value, or fail. -/
class Orderings where
  run : Scope → Statement → String → Except Failure Reply

/-- A custom ordering called with a statement and a direction. The sort of a model takes a
specification and no statement, so that it fails when it is called as one. -/
def Scope.run [Orderings] (scope : Scope) (s : Statement) (d : Direction) : Except Failure Reply :=
  match scope with
  | .given _ _ _ => Orderings.run scope s d.text
  | .entryPoint => .error (.shape .tooManyArguments)

end QueryOrder
