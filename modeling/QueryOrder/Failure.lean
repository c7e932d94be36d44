/-
The ways in which a sort can fail.

* `Failure`: the causes, and `Failure.message` their texts;
* `Violation`: a request against the allow-list, the only failures that a policy
  decides on;
* `ConfigurationFault`: an allow-list that cannot be declared;
* `ShapeFault`: a value that does not have the shape that is asked for;
* `TemplateFault`: a message template that cannot be filled in;
* `StatementFault`, `ModelFault`: a statement that cannot be built or written, a
  model that cannot be declared or changed.
-/
import QueryOrder.Field
import QueryOrder.Text.Clip
import QueryOrder.Text.Quoted

namespace QueryOrder

/-- What a request did against the rules. -/
inductive Violation where
  /-- The request breaks a rule without a name of its own. -/
  | invalid
  /-- A field is not in the allow-list. -/
  | disallowed
  /-- A field names a relation that the model lacks. -/
  | unknownRelation
  /-- A custom ordering stands beside other columns. -/
  | combined
deriving DecidableEq, Repr

/-- Why an allow-list cannot be declared. Values appear as they are written. -/
inductive ConfigurationFault where
  | reserved (names : List String)
  | scopesNotMapping (kind : String)
  | scopeNotCallable (key value : String)
  | scopeNotCustom (name : String)
  | scopeUndeclared (name : String) (fields : List String)
deriving DecidableEq, Repr

/-- How a value does not have the shape that is asked for; `kind` names its
type. -/
inductive ShapeFault where
  | notIterable (kind : String)
  | notSpreadable (kind : String)
  | elementNotSequence (index : Nat)
  | elementLength (index length : Nat)
  | noAttribute (kind name : String)
  | noClassAttribute (model name : String)
  | unhashable (kind : String)
  | readOnly (kind : String)
  | notCallable (kind : String)
  | bytesNotText
  | tooManyArguments
  /-- A failure is made of a message alone. -/
  | noKeywords (kind : String)
  /-- A failure of its own kind has no such part. -/
  | unknownKeyword (kind name : String)
  /-- A part of a report is given by its place and by its name. -/
  | repeatedArgument (name : String)
  /-- A part of a report is given by its name twice. -/
  | repeatedKeyword (name : String)
  /-- A model is named by a text. -/
  | nameNotText (model name kind : String)
  /-- What every model has cannot be taken away. -/
  | permanent (model name : String)
deriving DecidableEq, Repr

/-- Why a message template cannot be filled in. -/
inductive TemplateFault where
  | missingName (name : String)
  | unterminatedName
  | unfinished
  | unknownConversion (conversion : Char) (index : Nat)
  | widthTooBig
  | precisionTooBig
  | takenWidthTooBig
  | takenPrecisionTooBig
  | noValueLeft
  | starNotInteger
  | notReal (conversion : Char) (kind : String)
  | notInteger (conversion : Char) (kind : String)
  | notFloat (kind : String)
  | notCharacter
  | characterOutOfRange
  | infiniteInteger
  | nanInteger
  | integerTooLarge
  | tooManyDigits
  | tooLong
deriving DecidableEq, Repr

/-- Why a statement cannot be built or written. -/
inductive StatementFault where
  /-- A class without a table has no rows. -/
  | notSelectable
  /-- An attribute is named that is no column. -/
  | notColumn
  /-- A relation to many rows is compared with one. -/
  | notSingle
  /-- A column is named that the table lacks. -/
  | unknownColumn
  /-- A text of its own takes the name of a placeholder. -/
  | placeholderTaken
  /-- A join could be made in several places. -/
  | ambiguousJoin
deriving DecidableEq, Repr

/-- Why a model cannot be declared or changed. -/
inductive ModelFault where
  /-- A column has an empty name. -/
  | unnamedColumn
  /-- A column is in the table already. -/
  | columnTaken (name : String)
  /-- A table belongs to another model already. -/
  | tableTaken (name : String)
  /-- A name means something else on every model. -/
  | reservedName (name : String)
  /-- A model that inherits from none has no table. -/
  | noTable
  /-- The primary key of a table is something else on its model. -/
  | noPrimaryKey
  /-- A column goes by the name of a relation. -/
  | memberTaken (name : String)
  /-- A table does not refer to that of the parent. -/
  | unlinked
  /-- A table refers to that of the parent in several ways. -/
  | ambiguousLink
  /-- A column or a relation cannot be taken away. -/
  | permanent
  /-- A relation leads over something that is no column. -/
  | brokenRelation (name : String)
  /-- The relations of the models could not be resolved before. -/
  | unresolved
deriving DecidableEq, Repr

/-- Why a sort failed. -/
inductive Failure where
  | violation (cause : Violation) (message field : String) (critical : Bool)
  | missingScope (model field method : String)
  | configuration (fault : ConfigurationFault)
  | shape (fault : ShapeFault)
  | template (fault : TemplateFault)
  | statement (fault : StatementFault)
  | declaration (fault : ModelFault)
  /-- A name is looked up where it is not registered. -/
  | missingName (name : String)
  /-- A field of an allow-list cannot be set again. -/
  | frozen
  /-- A class without a table cannot be sorted. -/
  | notMapped
  /-- A name stands for nothing that was made before. -/
  | undefined (name : String)
  /-- The run is stopped from outside. -/
  | interrupted (message : String)
  /-- A custom ordering failed in its own way. -/
  | raised (kind message : String)
deriving DecidableEq, Repr

/-! ### Messages -/

/-- A list of texts, each of them quoted. -/
def quotedList (texts : List String) : String :=
  "[" ++ ", ".intercalate (texts.map Text.quote) ++ "]"

def ConfigurationFault.message : ConfigurationFault → String
  | reserved names =>
    quotedList names ++ " cannot be sortable: the name is reserved by SortableMixin"
  | scopesNotMapping kind => "scopes must be a mapping of field -> callable, got " ++ kind
  | scopeNotCallable key value => "custom scope for " ++ key ++ " is not callable: " ++ value
  | scopeNotCustom name =>
    "custom scope " ++ Text.quote name ++ " must be registered under a 'c_' field"
  | scopeUndeclared name fields =>
    "custom scope " ++ Text.quote name ++ " is not in the sortable fields " ++ quotedList fields

def ShapeFault.message : ShapeFault → String
  | notIterable kind => "'" ++ Text.clip 200 kind ++ "' object is not iterable"
  | notSpreadable kind =>
    "sort_by_columns.config.sortable_by() argument after * must be an iterable, not " ++
      Text.clip 200 kind
  | elementNotSequence index =>
    "cannot convert dictionary update sequence element #" ++ toString index ++ " to a sequence"
  | elementLength index length =>
    "dictionary update sequence element #" ++ toString index ++ " has length " ++
      toString length ++ "; 2 is required"
  | noAttribute kind name =>
    "'" ++ Text.clip 50 kind ++ "' object has no attribute '" ++ name ++ "'"
  | noClassAttribute model name =>
    "type object '" ++ Text.clip 50 model ++ "' has no attribute '" ++ name ++ "'"
  | unhashable kind => "unhashable type: '" ++ Text.clip 200 kind ++ "'"
  | readOnly kind =>
    "'" ++ Text.clip 200 kind ++ "' object does not support item assignment"
  | notCallable kind => "'" ++ Text.clip 200 kind ++ "' object is not callable"
  | bytesNotText => "a bytes-like object is required, not 'str'"
  | tooManyArguments =>
    "SortableMixin.sorted_by_columns() takes 2 positional arguments but 3 were given"
  | noKeywords kind => Text.clip 200 kind ++ "() takes no keyword arguments"
  | unknownKeyword kind name =>
    kind ++ ".__init__() got an unexpected keyword argument '" ++ name ++ "'"
  | repeatedArgument name =>
    "PolicyGate.violation() got multiple values for argument '" ++ name ++ "'"
  | repeatedKeyword name =>
    "sort_by_columns.policy.PolicyGate.violation() got multiple values for keyword argument '" ++
      name ++ "'"
  | nameNotText model name kind =>
    "can only assign string to " ++ model ++ "." ++ name ++ ", not '" ++ kind ++ "'"
  | permanent model name =>
    "cannot delete '" ++ name ++ "' attribute of immutable type '" ++ model ++ "'"

def TemplateFault.message : TemplateFault → String
  | missingName name => Text.quote name
  | unterminatedName => "incomplete format key"
  | unfinished => "incomplete format"
  | unknownConversion conversion index =>
    let shown := if 31 ≤ conversion.toNat && conversion.toNat ≤ 126 then conversion else '?'
    "unsupported format character '" ++ shown.toString ++ "' (0x" ++
      String.ofList (Text.hexadecimal 0 conversion.toNat) ++ ") at index " ++ toString index
  | widthTooBig => "width too big"
  | precisionTooBig => "precision too big"
  | takenWidthTooBig => "Python int too large to convert to C ssize_t"
  | takenPrecisionTooBig => "Python int too large to convert to C int"
  | noValueLeft => "not enough arguments for format string"
  | starNotInteger => "* wants int"
  | notReal conversion kind =>
    "%" ++ conversion.toString ++ " format: a real number is required, not " ++ kind
  | notInteger conversion kind =>
    "%" ++ conversion.toString ++ " format: an integer is required, not " ++ kind
  | notFloat kind => "must be real number, not " ++ kind
  | notCharacter => "%c requires int or char"
  | characterOutOfRange => "%c arg not in range(0x110000)"
  | infiniteInteger => "cannot convert float infinity to integer"
  | nanInteger => "cannot convert float NaN to integer"
  | integerTooLarge => "int too large to convert to float"
  | tooManyDigits => "precision too large"
  | tooLong => ""

def StatementFault.message : StatementFault → String
  | notSelectable => "a class without a table has no rows"
  | notColumn => "only a column can be compared or sorted by"
  | notSingle => "many rows cannot be compared with one"
  | unknownColumn => "the table lacks a column"
  | placeholderTaken => "a text takes the name of a placeholder"
  | ambiguousJoin => "a join could be made in several places"

def ModelFault.message : ModelFault → String
  | unnamedColumn => "a column needs a name"
  | columnTaken name => "the table has a column " ++ Text.quote name ++ " already"
  | tableTaken name => "the table " ++ Text.quote name ++ " belongs to another model already"
  | reservedName name => "no column or relation can be named " ++ Text.quote name
  | noTable => "a model needs a table"
  | noPrimaryKey => "a table needs a primary key"
  | memberTaken name => "the model has a relation " ++ Text.quote name ++ " already"
  | unlinked => "the table does not refer to that of the parent"
  | ambiguousLink => "the table refers to that of the parent in several ways"
  | permanent => "Can't un-map individual mapped attributes on a mapped class."
  | brokenRelation name => "the relation " ++ Text.quote name ++ " leads over no column"
  | unresolved => "the relations of the models could not be resolved"

/-- The text of a failure. -/
def Failure.message : Failure → String
  | violation _ message _ _ => message
  | missingScope model field method =>
    "custom sort column " ++ Text.quote field ++ " has no implementation on model " ++ model ++
      ": define a " ++ method ++ "(stmt, direction) classmethod or register a scope for " ++
      Text.quote field ++ " in SortableFields.scopes"
  | configuration fault => fault.message
  | shape fault => fault.message
  | template fault => fault.message
  | statement fault => fault.message
  | declaration fault => fault.message
  | missingName name => Text.quote name
  | frozen => "an allow-list cannot be changed"
  | notMapped => "a class without a table cannot be sorted"
  | undefined name => name
  | interrupted message => message
  | raised _ message => message

end QueryOrder
