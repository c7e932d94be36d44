/-
Sort specifications and their tokens.

A sort specification is a text `field:direction,field:direction`. It is cut at
its commas, and each piece at its first colon.

* `Token.split`: the field of a piece and the text of its direction;
* `Token.parse`: the tokens of a specification, in the requested order;
* `Token.render`: tokens written as a specification;
* `parse_append`: a comma between two specifications keeps their tokens apart.
-/
import QueryOrder.Direction
import QueryOrder.Text.Blank
import QueryOrder.Text.Cut

namespace QueryOrder

/-- One requested ordering column. -/
structure Token where
  field : String
  direction : Direction
deriving DecidableEq, Repr

namespace Token

/-! ### Reading -/

/-- The trimmed field of a piece and, after its first colon, the trimmed text of
its direction. -/
def split (piece : List Char) : String × Option String :=
  match Text.cut [':'] piece with
  | some (field, direction) =>
    (String.ofList (Text.trim field), some (String.ofList (Text.trim direction)))
  | none => (String.ofList (Text.trim piece), none)

/-- The token of a piece. A piece without a field has none. -/
def ofPiece? (piece : List Char) : Option Token :=
  let (field, direction) := split piece
  if field = "" then none else some ⟨field, .ofText direction⟩

/-- The tokens of a specification, in the requested order. -/
def parse (spec : String) : List Token :=
  (Text.pieces ',' spec.toList).filterMap ofPiece?

/-- A comma between two specifications keeps their tokens apart. -/
theorem parse_append (a b : String) : parse (a ++ "," ++ b) = parse a ++ parse b := by
  simp [parse, Text.pieces_append]

/-! ### Writing -/

/-- A token as a piece of a specification. -/
def text (t : Token) : String :=
  t.field ++ ":" ++ t.direction.text

/-- Tokens as a specification. -/
def render (tokens : List Token) : String :=
  ",".intercalate (tokens.map text)

end Token

end QueryOrder
