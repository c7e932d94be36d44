/-
Sort directions.

* `Direction.ofText`: only the exact text `desc` sorts downwards;
* `Direction.sql`, `Direction.nulls`: the words of an ORDER BY term;
* `Direction.ofText_text`: a direction is read back from its own text.
-/

namespace QueryOrder

/-- The two ways to sort by a column. -/
inductive Direction where
  | ascending
  | descending
deriving DecidableEq, Repr

namespace Direction

/-- The text of a direction in a sort specification. -/
def text : Direction → String
  | ascending => "asc"
  | descending => "desc"

/-- The direction that a text asks for. Case counts, and any other text, like the
absence of one, asks for the ascending order. -/
def ofText (text : Option String) : Direction :=
  if text = some "desc" then descending else ascending

/-- The word of the direction in an ORDER BY term. -/
def sql : Direction → String
  | ascending => "ASC"
  | descending => "DESC"

/-- Where rows without a related row go: last when ascending and first when
descending. -/
def nulls : Direction → String
  | ascending => "NULLS LAST"
  | descending => "NULLS FIRST"

/-- A direction is read back from its own text. -/
theorem ofText_text (d : Direction) : ofText (some d.text) = d := by
  cases d <;> rfl

end Direction

end QueryOrder
