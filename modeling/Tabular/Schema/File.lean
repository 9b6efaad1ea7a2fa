import Tabular.Schema.Declaration
import Tabular.Surroundings

/-!
This module reads the declarations of a schema file: a list of tables, or a single table.
-/

namespace Tabular.Schema

/-- This function gives the declarations in a document. No list of tables is an empty one. -/
def declarations (file : String) (document : Value) : Except Failure (List Value) :=
  let document := if document.isTrue then document else .map []
  match document with
  | .map entries =>
      match Keyed.get? entries (.text "tables") with
      | some tables => if tables.isTrue then tables.items else pure []
      | none =>
          if Keyed.has entries (.text "name") && Keyed.has entries (.text "columns") then
            pure [document]
          else throw (.schemaFileEmpty file)
  | _ => throw (.schemaFileShape file)

/-- This function reads the declarations in a document. -/
def ofDocument (file : String) (document : Value) : Except Failure (List Schema) := do
  (← declarations file document).mapM ofValue

/-- This function reads the declarations of a file. -/
def load (surroundings : Surroundings) (file : String) : Except Failure (List Schema) := do
  let path := surroundings.path file
  if surroundings.isDirectory path then throw (.directory file)
  match surroundings.text? path with
  | none => throw (.fileMissing file)
  | some text => ofDocument file (← surroundings.documents.read text)

end Tabular.Schema
