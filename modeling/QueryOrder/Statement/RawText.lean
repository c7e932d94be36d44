/-
Texts of their own in a statement.

Such a text is written as it is, with three exceptions: a percent sign is doubled,
`:name` is a placeholder of that name, and a backslash before a colon keeps the
colon and goes.

* `RawText.pieces`: a text as its characters and its placeholders;
* `RawText.names`: the names of its placeholders;
* `RawText.sql`: a text as it is written.
-/
import QueryOrder.Statement.Identifier
import QueryOrder.Statement.Placeholder
import QueryOrder.Text.Word

namespace QueryOrder.RawText

/-! ### Placeholders -/

/-- Whether a character may stand in the name of a placeholder. -/
def isNameChar (c : Char) : Bool :=
  Text.isWord c || c = '$'

/-- The name after a colon. It must not be followed by another colon. -/
def nameAfterColon (s : List Char) : List Char :=
  if (s.dropWhile isNameChar).head? = some ':' then [] else s.takeWhile isNameChar

/-- Whether a colon after the given character can start a placeholder. -/
def startsAfter : Option Char → Bool
  | none => true
  | some c => !(isNameChar c || c = ':' || c = '\\')

/-- A piece of a text: a character that stands for itself, or a placeholder. -/
inductive Piece where
  | char (c : Char)
  | placeholder (name : List Char)
deriving DecidableEq, Repr

/-- A text as its characters and its placeholders. The first characters are
skipped where they belong to a placeholder before them. -/
def pieces (skip : Nat) (before : Option Char) : List Char → List Piece
  | [] => []
  | c :: s =>
    if skip = 0 then
      let name := if c = ':' && startsAfter before then nameAfterColon s else []
      if name.isEmpty then .char c :: pieces 0 (some c) s
      else .placeholder name :: pieces name.length (some c) s
    else pieces (skip - 1) (some c) s

/-- The names of the placeholders in a text. A name with a dollar sign is written
like one, but stands for no value of the statement. -/
def names (text : String) : List String :=
  (pieces 0 none text.toList).filterMap fun
    | .placeholder name => if name.contains '$' then none else some (String.ofList name)
    | .char _ => none

/-! ### Writing -/

/-- A piece as it is written. -/
def Piece.sql : Piece → List Char
  | char c => [c]
  | placeholder name => (Placeholder.sql (String.ofList name)).toList

/-- Whether a backslash before the text only keeps its colon. -/
def keepsColon : List Char → Bool
  | ':' :: s => (s.dropWhile isNameChar).head? ≠ some ':'
  | _ => false

/-- A text without the backslashes that only keep a colon. -/
def unescape : List Char → List Char
  | [] => []
  | c :: s => if c = '\\' && keepsColon s then unescape s else c :: unescape s

/-- A text as it is written. -/
def sql (text : String) : String :=
  String.ofList (unescape ((pieces 0 none (escapePercent text).toList).flatMap Piece.sql))

end QueryOrder.RawText
