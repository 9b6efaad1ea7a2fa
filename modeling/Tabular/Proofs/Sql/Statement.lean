import Tabular.Proofs.Sql.Token

/-!
This module reads the SQL statements that create, change and drop tables and indices. Constraints of
a table are passed over, since no row is refused by one here.
-/

namespace Tabular.Sql

/-- A column of a created table, with the literal of its default. -/
structure ColumnClause where
  name : String
  default : Option Token := none
  deriving DecidableEq, Repr

/-- A statement. A copy names the columns that it fills and those that it reads, in order. -/
inductive Statement where
  | rename (table name : String)
  | createTable (name : String) (columns : List ColumnClause)
  | createIndex (unique : Bool) (name table : String) (columns : List String)
  | dropIndex (name : String)
  | copy (table : String) (columns : List String) (source : String) (selected : List String)
  | dropTable (name : String)
  deriving DecidableEq, Repr

namespace Statement

/-- This function splits what stands in a bracket at its commas. The commas of inner brackets are
passed over. -/
def splitItems (depth : Nat) (item : List Token) :
    List Token → Option (List (List Token) × List Token)
  | [] => none
  | .mark ')' :: rest =>
      match depth with
      | 0 => some ([item], rest)
      | depth + 1 => splitItems depth (item ++ [.mark ')']) rest
  | .mark '(' :: rest => splitItems (depth + 1) (item ++ [.mark '(']) rest
  | .mark ',' :: rest =>
      match depth with
      | 0 => (splitItems 0 [] rest).map fun found => (item :: found.1, found.2)
      | depth + 1 => splitItems (depth + 1) (item ++ [.mark ',']) rest
  | token :: rest => splitItems depth (item ++ [token]) rest

/-- This function reads the items of a bracket and gives the tokens after it. -/
def bracket : List Token → Option (List (List Token) × List Token)
  | .mark '(' :: .mark ')' :: rest => some ([], rest)
  | .mark '(' :: rest => splitItems 0 [] rest
  | _ => none

def defaultOf : List Token → Option Token
  | .word "DEFAULT" :: value :: _ => some value
  | _ :: rest => defaultOf rest
  | [] => none

/-- This function reads an item of a table, which is a column or a constraint. -/
def column : List Token → Option (Option ColumnClause)
  | .word "FOREIGN" :: .word "KEY" :: _ => some none
  | .word "PRIMARY" :: .word "KEY" :: _ => some none
  | .word name :: rest => some (some ⟨name, defaultOf rest⟩)
  | _ => none

def columnName : List Token → Option String
  | [.word name] => some name
  | _ => none

/-- This function reads a column of an index. -/
def indexColumn : List Token → Option String
  | [.word name] => some name
  | [.word name, .word "COLLATE", .word _] => some name
  | _ => none

/-- This function reads the columns and the table of a selection. -/
def selection : List Token → Option (List String × String)
  | [.word column, .word "FROM", .word source] => some ([column], source)
  | .word column :: .mark ',' :: rest => do
      let (columns, source) ← selection rest
      pure (column :: columns, source)
  | _ => none

def createIndex? (unique : Bool) (name table : String) (rest : List Token) : Option Statement :=
  match bracket rest with
  | some (items, []) => (items.mapM indexColumn).map (.createIndex unique name table)
  | _ => none

def createTable? (name : String) (rest : List Token) : Option Statement :=
  match bracket rest with
  | some (items, []) =>
      (items.mapM column).map fun columns => .createTable name columns.reduceOption
  | _ => none

def copy? (table : String) (rest : List Token) : Option Statement :=
  match bracket rest with
  | some (items, .word "SELECT" :: rest) => do
      let columns ← items.mapM columnName
      let (selected, source) ← selection rest
      pure (.copy table columns source selected)
  | _ => none

def ofTokens? : List Token → Option Statement
  | [.word "ALTER", .word "TABLE", .word table, .word "RENAME", .word "TO", .word name] =>
      some (.rename table name)
  | [.word "DROP", .word "INDEX", .word name] => some (.dropIndex name)
  | [.word "DROP", .word "TABLE", .word name] => some (.dropTable name)
  | .word "CREATE" :: .word "TABLE" :: .word name :: rest => createTable? name rest
  | .word "CREATE" :: .word "INDEX" :: .word "IF" :: .word "NOT" :: .word "EXISTS" ::
      .word name :: .word "ON" :: .word table :: rest => createIndex? false name table rest
  | .word "CREATE" :: .word "UNIQUE" :: .word "INDEX" :: .word "IF" :: .word "NOT" ::
      .word "EXISTS" :: .word name :: .word "ON" :: .word table :: rest =>
      createIndex? true name table rest
  | .word "INSERT" :: .word "INTO" :: .word table :: rest => copy? table rest
  | _ => none

/-- This function reads a statement. -/
def ofText? (sql : String) : Option Statement := ofTokens? (tokens sql.toList)

example : ofText? "CREATE TABLE t (\n    a TEXT DEFAULT 'x,y',\n    FOREIGN KEY(a) REFERENCES u(b, c)\n)" =
    some (.createTable "t" [⟨"a", some (.literal "x,y")⟩]) := by decide

end Statement

end Tabular.Sql
