/-
Policies for requests against the rules.

* `Policy`: whether a violation stops the sort or only leaves out what it
  concerns;
* `Policy.ofValue`: the policy that a value of any kind stands for.
-/
import QueryOrder.Text.Blank
import QueryOrder.Value.Basic

namespace QueryOrder

/-- What happens when a request breaks the rules. -/
inductive Policy where
  /-- The sort fails. -/
  | strict
  /-- The sort goes on without what broke them, after a warning. -/
  | lenient
deriving DecidableEq, Repr

namespace Policy

/-- The name of a policy. -/
def name : Policy → String
  | strict => "strict"
  | lenient => "lenient"

/-- The texts that stand for the strict policy. -/
def strictFlags : List String := ["1", "true", "yes", "on", "strict"]

/-- A text trimmed and in lower case. Letters outside the Latin alphabet of seven
bits are left alone: none of them has a lower case that occurs in a flag. -/
def flag (s : String) : String :=
  String.ofList ((Text.trim s.toList).map Char.toLower)

/-- The policy that a value stands for: a text that is a strict flag or a value
that counts as given is strict, and anything else is lenient. -/
def ofValue (v : Value) : Policy :=
  let isStrict := match v.text? with
    | some s => strictFlags.contains (flag s)
    | none => v.isTruthy
  if isStrict then strict else lenient

end Policy

end QueryOrder
