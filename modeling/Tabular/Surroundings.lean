import Tabular.Path
import Tabular.Yaml.Format

/-!
This module holds what a command finds around it: files, directories and variables, and the form in which
documents are kept.
-/

namespace Tabular

/-- The files with their texts, the directories, the variables, the working directory and the form of
documents. -/
structure Surroundings where
  text? : Path → Option String
  isDirectory : Path → Bool := fun _ => false
  environment : String → Option String := fun _ => none
  working : Path := .root
  documents : DocumentFormat := Yaml.format

namespace Surroundings

def isFile (surroundings : Surroundings) (path : Path) : Bool := (surroundings.text? path).isSome

/-- This function reads a written path. -/
def path (surroundings : Surroundings) (text : String) : Path := .ofText surroundings.working text

/-- This function puts a text into a file. -/
def withFile (surroundings : Surroundings) (path : Path) (text : String) : Surroundings :=
  { surroundings with
    text? := fun other => if other = path then some text else surroundings.text? other }

/-- This function gives a variable that is set and not empty. -/
def setting? (surroundings : Surroundings) (name : String) : Option String :=
  (surroundings.environment name).filter (· ≠ "")

end Surroundings

end Tabular
