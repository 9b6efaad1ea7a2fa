import Tabular.Value.Display

/-!
This module holds the causes for which an operation fails, and the wording of each cause.
-/

namespace Tabular

/-- A family of failures that come from outside the library: from the driver or from a caller. -/
inductive OutsideKind where
  | error
  | database
  | operational
  | integrity
  | programming
  | interface
  | data
  | internal
  | notSupported
  | runtime
  | value
  | overflow
  | key
  deriving DecidableEq, Repr

/-- Failures of these families belong to the database driver, and the library wraps them. -/
def OutsideKind.isEngine : OutsideKind → Bool
  | .runtime | .value | .overflow | .key => false
  | _ => true

/-- A failure from outside the library. -/
structure Outside where
  kind : OutsideKind
  message : String
  deriving DecidableEq, Repr

/-- A missing key is shown as a literal, and every other message as it is. -/
def Outside.text (cause : Outside) : String :=
  match cause.kind with
  | .key => Text.literal cause.message
  | _ => cause.message

/-- A cause for which a JSON text is refused. -/
inductive JsonProblem where
  | value
  | propertyName
  | colon
  | comma
  | extraData
  | openString
  | controlCharacter
  | escape
  | unicodeEscape
  | byteOrderMark
  deriving DecidableEq, Repr

def JsonProblem.message : JsonProblem → String
  | .value => "Expecting value"
  | .propertyName => "Expecting property name enclosed in double quotes"
  | .colon => "Expecting ':' delimiter"
  | .comma => "Expecting ',' delimiter"
  | .extraData => "Extra data"
  | .openString => "Unterminated string starting at"
  | .controlCharacter => "Invalid control character at"
  | .escape => "Invalid \\escape"
  | .unicodeEscape => "Invalid \\uXXXX escape"
  | .byteOrderMark => "Unexpected UTF-8 BOM (decode using utf-8-sig)"

/-- A place in a text: the line and the column count from one, and the offset from zero. -/
structure Place where
  line : Nat
  column : Nat
  offset : Nat
  deriving DecidableEq, Repr

/-- A cause for which an operation fails. -/
inductive Failure where
  | filter (fragment : Value) (reason : String)
  | parameter (value : Value)
  | queryShape (statement clause : String)
  | orderDirection (direction : Value)
  | orderTerm (term : Value)
  | limit (count : Value)
  | offset (count : Value)
  | columnType (name : Value)
  | severalPrimaryKeys (table : Value) (columns : List Value)
  | primaryKeyTwice (table : Value)
  | defaultType (column : Value) (value : Value)
  | foreignKey (references : List (Value × Value))
  | unknownIndexColumn (column index : Value)
  | unknownColumn (column table : Value)
  | noUniqueColumn (table : Value)
  | emptyRow
  | rowColumns (found expected : List Value)
  | schemaMismatch (table : Value)
  | foreignKeysEnabled
  | engine (message : String) (sql : String) (parameters : Value)
  | outside (cause : Outside)
  | key (missing : Value)
  | prefetchSize (size : Int)
  | batchSize (size : Int)
  | closedStream
  | integerText (text : String)
  | integerTooLong (digits : Nat)
  | notFinite
  | notANumber
  | floatOverflow
  | pairLength (index length : Nat)
  | json (problem : JsonProblem) (place : Place)
  | filterText (text : String)
  | schemaFileShape (path : String)
  | schemaFileEmpty (path : String)
  | fileMissing (path : String)
  | directory (path : String)
  | calendar (problem : CalendarProblem)
  | yaml
  | endOfRows
  | wrongType
  | missingAttribute
  deriving DecidableEq

namespace Failure

/-- This function gives the text of an engine failure. Parameters are shown unless they are empty, and their
integers are taken to be short enough to be shown. -/
def engineMessage (message sql : String) (parameters : Value) : String :=
  if parameters.isTrue then message ++ ", when running " ++ sql ++ " with " ++ parameters.literal
  else message ++ ", when running " ++ sql

def filterMessage (fragment : Value) (reason : String) : String :=
  if reason = "" then "Invalid syntax for " ++ fragment.literal
  else "Invalid syntax for " ++ fragment.literal ++ ": " ++ reason

/-- This function gives the text of a failure. -/
def message : Failure → String
  | .filter fragment reason => filterMessage fragment reason
  | .parameter value => "Invalid type " ++ value.kind ++ " for sql parameter " ++ value.literal
  | .queryShape statement clause => "Invalid " ++ statement ++ " with " ++ clause
  | .orderDirection direction => "Invalid orderBy direction: " ++ direction.literal
  | .orderTerm term => "Invalid orderBy for column " ++ term.literal
  | .limit count => "Invalid limit: " ++ count.literal
  | .offset count => "Invalid offset: " ++ count.literal
  | .columnType name => "Invalid sql type " ++ name.literal
  | .severalPrimaryKeys table columns =>
      "Table " ++ table.toText ++ " declares several primary key columns " ++
        (Value.list columns).literal ++ "; use primary_key for a composite key"
  | .primaryKeyTwice table =>
      "Table " ++ table.toText ++ " declares both a column and a composite primary key"
  | .defaultType column value =>
      "Invalid type " ++ value.kind ++ " for default value for column " ++ column.toText
  | .foreignKey references =>
      "Invalid foreign key description: " ++ (Value.map references).literal
  | .unknownIndexColumn column index =>
      "Unknown field " ++ column.toText ++ " for index " ++ index.toText
  | .unknownColumn column table =>
      "Column " ++ column.toText ++ " is not part of schema " ++ table.toText
  | .noUniqueColumn table => "No unique columns for identifying the row in " ++ table.toText
  | .emptyRow => "Cannot write a row without columns"
  | .rowColumns found expected =>
      "Row columns " ++ (Value.list found).literal ++ " don't match " ++
        (Value.list expected).literal
  | .schemaMismatch table =>
      "Table " ++ table.toText ++ " already exists and doesn't match the declared schema"
  | .foreignKeysEnabled => "Foreign keys must be disabled when using create_or_update_table"
  | .engine message sql parameters => engineMessage message sql parameters
  | .outside cause => cause.text
  | .key missing => missing.literal
  | .prefetchSize size => "Invalid prefetch size: " ++ toString size
  | .batchSize size => "Invalid batch size: " ++ toString size
  | .closedStream => "write to closed stream"
  | .integerText text => "invalid literal for int() with base 10: " ++ Text.literal text
  | .integerTooLong digits =>
      "Exceeds the limit (4300 digits) for integer string conversion: value has " ++
        toString digits ++ " digits; use sys.set_int_max_str_digits() to increase the limit"
  | .notFinite => "cannot convert float infinity to integer"
  | .notANumber => "cannot convert float NaN to integer"
  | .floatOverflow => "int too large to convert to float"
  | .pairLength index length =>
      "dictionary update sequence element #" ++ toString index ++ " has length " ++
        toString length ++ "; 2 is required"
  | .json problem place =>
      problem.message ++ ": line " ++ toString place.line ++ " column " ++
        toString place.column ++ " (char " ++ toString place.offset ++ ")"
  | .filterText text => "filter must be a JSON object, got " ++ text
  | .schemaFileShape path => path ++ ": expected a mapping at the top level"
  | .schemaFileEmpty path => path ++ ": no tables declared"
  | .fileMissing path => "[Errno 2] No such file or directory: " ++ Text.literal path
  | .directory path => "[Errno 21] Is a directory: " ++ Text.literal path
  | .calendar problem => problem.message
  | .yaml | .endOfRows | .wrongType | .missingAttribute => ""

/-- These failures are usage errors that are found while a statement is built. -/
def isUsage : Failure → Bool
  | .filter _ _ | .parameter _ | .queryShape _ _ | .orderDirection _ | .orderTerm _ | .limit _
  | .offset _ | .columnType _ | .severalPrimaryKeys _ _ | .primaryKeyTwice _ | .defaultType _ _
  | .foreignKey _ | .unknownIndexColumn _ _ | .unknownColumn _ _ | .noUniqueColumn _ | .emptyRow
  | .rowColumns _ _ => true
  | _ => false

/-- These failures say that a table is left as it is. -/
def isSchemaRefusal : Failure → Bool
  | .schemaMismatch _ | .foreignKeysEnabled => true
  | _ => false

def isEngine : Failure → Bool
  | .engine _ _ _ => true
  | _ => false

/-- These failures are the library's own. -/
def isLibrary (failure : Failure) : Bool :=
  failure.isUsage || failure.isSchemaRefusal || failure.isEngine

/-- These failures say that a value has the right type but no meaning. Usage errors are such. -/
def isBadValue : Failure → Bool
  | .prefetchSize _ | .batchSize _ | .closedStream | .integerText _ | .integerTooLong _
  | .notANumber | .pairLength _ _ | .json _ _ | .filterText _ | .schemaFileShape _
  | .schemaFileEmpty _ | .calendar _ => true
  | .outside cause => cause.kind == .value
  | failure => failure.isUsage

/-- These failures say that a file cannot be read. -/
def isFile : Failure → Bool
  | .fileMissing _ | .directory _ => true
  | _ => false

/-- These failures say that a mapping has no such key. -/
def isMissingKey : Failure → Bool
  | .key _ => true
  | .outside cause => cause.kind == .key
  | _ => false

/-- This function tells whether a text holds another one. -/
def holds (text part : List Char) : Bool :=
  match text with
  | [] => part.isEmpty
  | _ :: rest => part.isPrefixOf text || holds rest part

/-- A failure is a violation of uniqueness when its text says so. -/
def isUniqueViolation (failure : Failure) : Bool :=
  holds failure.message.toList "UNIQUE constraint failed".toList

end Failure

end Tabular
