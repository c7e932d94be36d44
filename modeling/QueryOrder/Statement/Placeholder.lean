/-
Placeholders.

A value is not written into a statement. In its place stands `%(name)s`, and the
name tells which column the value is for. A selected column whose name is taken already
gets a name of the same kind.

* `Placeholder.stem`, `Placeholder.labelStem`: what a column gives to the names of its
  placeholders and to its own further names;
* `Placeholder.names`: such names in the order of the statement, each stem numbered from
  one on;
* `Placeholder.sql`: a placeholder as it is written.
-/
import QueryOrder.Text.Quoted

namespace QueryOrder.Placeholder

/-! ### Stems -/

/-- Whether a character would break a placeholder. -/
def isBreaking (c : Char) : Bool :=
  c = '%' || c = '(' || c = ')' || c = ' ' || c = '$'

/-- A text with an underscore for every run of breaking characters. The flag tells
that a run has begun. -/
def joinRuns (begun : Bool) : List Char → List Char
  | [] => []
  | c :: s =>
    if !isBreaking c then c :: joinRuns false s
    else if begun then joinRuns true s
    else '_' :: joinRuns true s

/-- A text without the underscores at its two ends. -/
def stripMarks (s : List Char) : List Char :=
  ((s.dropWhile (· = '_')).reverse.dropWhile (· = '_')).reverse

/-- What a column gives to the names of its placeholders. -/
def stem (column : String) : String :=
  String.ofList (stripMarks (joinRuns false column.toList))

/-- What a column gives to its own further names. -/
def labelStem (column : String) : String :=
  String.ofList (joinRuns false column.toList)

/-- The stem of a placeholder that belongs to no column. -/
def freeStem : String := "param"

/-! ### Names -/

/-- Stems with their numbers. Each stem counts for itself, the ones before
included. -/
def numbered (before : List String) : List String → List String
  | [] => []
  | stem :: rest =>
    (stem ++ "_" ++ toString (before.count stem + 1)) :: numbered (stem :: before) rest

/-- The longest name that is left as it is. -/
def maxLength : Nat := 57

/-- Names in which every long one is cut and ends with how many were cut so
far. -/
def shortened (cut : Nat) : List String → List String
  | [] => []
  | name :: rest =>
    if name.length ≤ maxLength then name :: shortened cut rest
    else
      String.ofList (name.toList.take maxLength ++ '_' :: Text.hexadecimal 0 (cut + 1)) ::
        shortened (cut + 1) rest

/-- Names with the given stems, which are numbered on from those before. -/
def names (before stems : List String) : List String :=
  shortened 0 (numbered before stems)

/-! ### Writing -/

/-- How a character of a name is written. -/
def escape (c : Char) : Char :=
  if c = '.' || c = '[' || c = ']' then '_' else if c = ':' then 'C' else c

/-- A placeholder as it is written. -/
def sql (name : String) : String :=
  "%(" ++ String.ofList (name.toList.map escape) ++ ")s"

end QueryOrder.Placeholder
