import Tabular.Surroundings

/-!
This module holds the tasks of the command line, and what a command leaves behind. How a command line is
read as a task is left to its reader.
-/

namespace Tabular

/-- What a command has printed, and its messages about errors. -/
structure Console where
  output : String := ""
  errors : String := ""
  deriving DecidableEq, Repr

namespace Command

/-- What a command line says for all commands. -/
structure Shared where
  database : Option String := none
  settingsFile : Option String := none
  json : Bool := false
  verbose : Bool := false
  deriving DecidableEq, Repr

/-- What a command is to do. -/
inductive Task where
  | apply (file : String) (strict : Bool)
  | check (file : String)
  | count (table : String) (filter : Option String)
  | find (table : String) (filter : Option String) (ordering : List String)
      (limit offset : Option Int) (columns : Option String)
  | inspect (table : String)
  deriving DecidableEq, Repr

/-- How a command ended: its status, what it printed, and the failure that it did not expect. -/
structure Ending where
  status : Nat
  console : Console := {}
  failure : Option Failure := none
  deriving DecidableEq

/-- A reader of command lines. It gives a task, or it ends the command at once. -/
abbrev LineReader := Surroundings → List String → Except Ending (Shared × Task)

end Command

end Tabular
