/-
Sort plans.

* `Fragment`: one term of the order, and the relation whose table it needs;
* `ScopeCall`: a custom ordering with the direction that it will be called with;
* `Plan`: what a sort specification comes to;
* `Plan.orderBy`: the text of the order.
-/
import QueryOrder.Traced

namespace QueryOrder

/-- One term of the order, and the relation whose table it needs, if any. -/
structure Fragment where
  sql : String
  join : Option String
deriving DecidableEq, Repr

namespace Fragment

/-- The term for a column of the table itself. -/
def ofColumn (table column : String) (d : Direction) : Fragment :=
  ⟨table ++ "." ++ column ++ " " ++ d.sql, none⟩

/-- The term for a column of a related table, which goes by the name of the
relation. -/
def ofRelated (relation column : String) (d : Direction) : Fragment :=
  ⟨relation ++ "." ++ column ++ " " ++ d.sql ++ " " ++ d.nulls, some relation⟩

/-- The relations that fragments need joined, each once and in the order of their
first need. A relation without a name is not joined. -/
def joins (fragments : List Fragment) : List String :=
  ((fragments.filterMap join).filter (· != "")).eraseDups

end Fragment

/-- A custom ordering with the direction that it will be called with. -/
structure ScopeCall where
  name : String
  scope : Scope
  direction : Direction
deriving DecidableEq, Repr

/-- The call itself, with a statement. -/
def ScopeCall.run [Orderings] (call : ScopeCall) (s : Statement) : Traced Reply :=
  ⟨[.call call.scope call.direction s], call.scope.run s call.direction⟩

/-- What a sort specification comes to. A plan with a custom ordering leaves the
order to it. -/
structure Plan where
  joins : List String
  fragments : List Fragment
  custom : Option ScopeCall
deriving DecidableEq, Repr

namespace Plan

/-- The plan that changes nothing. -/
def empty : Plan := ⟨[], [], none⟩

/-- The plan of fragments. -/
def ofFragments (fragments : List Fragment) : Plan :=
  ⟨Fragment.joins fragments, fragments, none⟩

/-- The plan of a custom ordering. -/
def ofCall (call : ScopeCall) : Plan := ⟨[], [], some call⟩

/-- Whether a plan changes nothing. -/
def isEmpty (p : Plan) : Bool :=
  p.custom.isNone && p.fragments.isEmpty

/-- The text of the order. -/
def orderBy (p : Plan) : String :=
  ", ".intercalate (p.fragments.map Fragment.sql)

end Plan

end QueryOrder
