import Tabular.Schema

/-!
This module writes the statements that create a declared table and its indices.
-/

namespace Tabular

namespace Text

def doubleQuotes : List Char → List Char
  | [] => []
  | c :: rest => if c = '\'' then '\'' :: '\'' :: doubleQuotes rest else c :: doubleQuotes rest

/-- This function writes a text as an SQL literal. A quote inside is written twice. -/
def sqlLiteral (text : String) : String :=
  String.ofList ('\'' :: doubleQuotes text.toList ++ ['\''])

end Text

/-- A statement that defines a table by its lines, or an index by its expressions. -/
inductive Definition where
  | table (name : String) (lines : List String)
  | index (unique : Bool) (name owner : String) (expressions : List String)
  deriving DecidableEq

namespace Definition

/-- This function gives the text before the bracketed part. -/
def head : Definition → String
  | .table name _ => "CREATE TABLE " ++ name ++ " "
  | .index unique name owner _ =>
      "CREATE " ++ (if unique then "UNIQUE " else "") ++ "INDEX IF NOT EXISTS " ++ name ++ " ON " ++
        owner ++ " "

/-- This function gives the bracketed part. -/
def body : Definition → String
  | .table _ lines => "(\n    " ++ String.intercalate ",\n    " lines ++ "\n)"
  | .index _ _ _ expressions => "(" ++ String.intercalate ", " expressions ++ ")"

def sql (definition : Definition) : String := definition.head ++ definition.body

end Definition

namespace Column

/-- This function writes a default. A number is written bare and a text as a literal. -/
def defaultText (name default : Value) : Except Failure String :=
  match default with
  | .bool value => pure (if value then "1" else "0")
  | .int value => pure (toString value)
  | .float value => pure value.toText
  | .text value => pure (Text.sqlLiteral value)
  | _ => throw (.defaultType name default)

/-- This function gives the constraints of a column. A primary key implies the two others. -/
def constraints (column : Column) : List String :=
  if column.primaryKey then ["PRIMARY KEY"]
  else (if column.unique then ["UNIQUE"] else []) ++ (if column.notNull then ["NOT NULL"] else [])

/-- This function writes a column. -/
def line (name : Value) (column : Column) : Except Failure String := do
  let default ←
    if column.default.isNull then pure []
    else do pure ["DEFAULT " ++ (← defaultText name column.default)]
  let collation :=
    if column.collation.isTrue then ["COLLATE " ++ column.collation.toText] else []
  let name ← name.asText
  pure (String.intercalate " "
    (name :: column.storage.name :: column.constraints ++ default ++ collation))

end Column

namespace ForeignKey

def line (key : ForeignKey) : Except Failure String := do
  let source ← Value.commaList (← key.sourceColumns)
  let table ← key.table
  let target ← Value.commaList (← key.targetColumns)
  pure ("FOREIGN KEY(" ++ source ++ ") REFERENCES " ++ table.toText ++ "(" ++ target ++ ")")

end ForeignKey

/-- An index to create, with the written expression of each column. -/
structure IndexPlan where
  index : Index
  expressions : List Value

namespace Schema

def indexName (table name : Value) : String := "ix_" ++ table.toText ++ "_" ++ name.toText

/-- This function refuses an index over a column that the table does not have. -/
def checkIndexColumns (schema : Schema) (name : Value) : List Value → Except Failure Unit
  | [] => pure ()
  | column :: rest =>
      if !column.isKey then throw .wrongType
      else if schema.columns.has column then checkIndexColumns schema name rest
      else throw (.unknownIndexColumn column name)

def declaredPlans (schema : Schema) : Keyed Index → Except Failure (Keyed IndexPlan)
  | [] => pure []
  | (name, index) :: rest => do
      checkIndexColumns schema name index.columns
      pure ((name, ⟨index, index.columns⟩) :: (← declaredPlans schema rest))

/-- This function writes the expression of a column that is flagged for an index. -/
def flaggedExpression (name : Value) (column : Column) : Value :=
  if column.collation.isTrue then .text (name.toText ++ " COLLATE " ++ column.collation.toText)
  else name

/-- This function adds the indices of the flagged columns, unless their names are taken. -/
def addFlagged (plans : Keyed IndexPlan) : Keyed Column → Keyed IndexPlan
  | [] => plans
  | (name, column) :: rest =>
      if column.indexed && !plans.has name then
        addFlagged (plans ++ [(name, ⟨{ columns := [name] }, [flaggedExpression name column]⟩)]) rest
      else addFlagged plans rest

/-- This function gives all indices to create by name. -/
def indexPlans (schema : Schema) : Except Failure (Keyed IndexPlan) := do
  pure (addFlagged (← declaredPlans schema schema.indices) schema.columns)

def tableDefinition (schema : Schema) : Except Failure Definition := do
  let columns ← schema.columns.mapM fun entry => entry.2.line entry.1
  let foreignKeys ← schema.foreignKeys.mapM ForeignKey.line
  let primaryKey ←
    if schema.compositeKey.isEmpty then pure []
    else do pure ["PRIMARY KEY (" ++ (← Value.commaList schema.compositeKey) ++ ")"]
  pure (.table schema.name.toText (columns ++ foreignKeys ++ primaryKey))

def indexDefinition (schema : Schema) (name : Value) (plan : IndexPlan) :
    Except Failure Definition := do
  let expressions ← plan.expressions.mapM Value.asText
  pure (.index plan.index.unique (indexName schema.name name) schema.name.toText expressions)

def indexDefinitions (schema : Schema) : Except Failure (List Definition) := do
  (← schema.indexPlans).mapM fun entry => schema.indexDefinition entry.1 entry.2

/-- This function gives the definition of the table and then those of its indices. -/
def definitions (schema : Schema) : Except Failure (List Definition) := do
  let table ← schema.tableDefinition
  pure (table :: (← schema.indexDefinitions))

end Schema

end Tabular
