/-
Names in SQL.

* `Identifier.needsQuotes`: the names that would be read as something else;
* `Identifier.sql`: a name as it is written in a statement;
* `escapePercent`: a text in which a percent sign starts no parameter.
-/
import QueryOrder.Text.Cut

namespace QueryOrder

/-- A text with its percent signs doubled, so that none starts a parameter. -/
def escapePercent (s : String) : String :=
  String.ofList (s.toList.flatMap fun c => if c = '%' then ['%', '%'] else [c])

namespace Identifier

/-- The words that cannot be names without quotes. -/
def reservedWords : List String :=
  ["all", "analyse", "analyze", "and", "any", "array", "as", "asc", "asymmetric",
   "authorization", "between", "binary", "both", "case", "cast", "check", "collate", "column",
   "constraint", "create", "cross", "current_catalog", "current_date", "current_role",
   "current_schema", "current_time", "current_timestamp", "current_user", "default",
   "deferrable", "desc", "distinct", "do", "else", "end", "except", "false", "fetch", "for",
   "foreign", "freeze", "from", "full", "grant", "group", "having", "ilike", "in",
   "initially", "inner", "intersect", "into", "is", "isnull", "join", "leading", "left",
   "like", "limit", "localtime", "localtimestamp", "natural", "new", "not", "notnull", "null",
   "of", "off", "offset", "old", "on", "only", "or", "order", "outer", "over", "overlaps",
   "placing", "primary", "references", "returning", "right", "select", "session_user",
   "similar", "some", "symmetric", "table", "then", "to", "trailing", "true", "union",
   "unique", "user", "using", "variadic", "verbose", "when", "where", "window", "with"]

/-- Whether a character may stand in a name without quotes: a small letter, a
digit, the underscore, the dollar sign, and the long s and the dotless i, which
are small letters whose capitals are plain ones. -/
def isPlain (c : Char) : Bool :=
  c.isLower || c.isDigit || c = '_' || c = '$' || c = 'ſ' || c = 'ı'

/-- A name without the line feed at its end, which is let through. -/
def withoutLineFeed (name : List Char) : List Char :=
  if name.getLast? = some '\n' then name.dropLast else name

/-- Whether a name needs quotes: it is a reserved word, starts with a digit or a
dollar sign, or holds a character that is not plain. -/
def needsQuotes (name : String) : Bool :=
  reservedWords.contains name || !(withoutLineFeed name.toList).all isPlain ||
    match withoutLineFeed name.toList with
    | [] => true
    | c :: _ => c.isDigit || c = '$'

/-- A name as it is written in a statement. A quote inside quotes is doubled. -/
def sql (name : String) : String :=
  if needsQuotes name then
    let inner := name.toList.flatMap fun c => if c = '"' then ['"', '"'] else [c]
    escapePercent (String.ofList ('"' :: (inner ++ ['"'])))
  else name

/-- A name within the table that holds it. -/
def qualified (table name : String) : String :=
  sql table ++ "." ++ sql name

end Identifier

end QueryOrder
