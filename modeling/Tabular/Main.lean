import Tabular.Command.Run
import Tabular.Engine.Script
import Tabular.Json.Reader

/-!
This module is the command line. No database engine is linked: the replies of the engine are read from
standard input as a JSON list, and without them every reply is empty.
-/

namespace Tabular.Command

/-! ## Prepared replies -/

def itemsAt (entries : List (Value × Value)) (name : String) : List Value :=
  (((Keyed.get? entries (.text name)).bind Value.elements?).getD [])

def integerAt (entries : List (Value × Value)) (name : String) : Option Int :=
  (Keyed.get? entries (.text name)).bind Value.integer?

def textAt (entries : List (Value × Value)) (name : String) : Option String :=
  (Keyed.get? entries (.text name)).bind Value.text?

/-- This function reads a prepared reply. A message makes it an operational failure. -/
def readReply (value : Value) : Reply :=
  match value with
  | .map entries => {
      columns := (itemsAt entries "columns").map Value.toText
      rows := (itemsAt entries "rows").map fun row => row.elements?.getD []
      lastInsertId := integerAt entries "id"
      changes := (integerAt entries "changes").getD (-1)
      failure := (textAt entries "message").map fun message => ⟨.operational, message⟩ }
  | _ => {}

/-- This function reads prepared replies. A text that is no JSON list holds none. -/
def readReplies (text : String) : List Reply :=
  match Json.read text with
  | .ok (.list values) => values.map readReply
  | _ => []

/-! ## Surroundings of the process -/

/-- This function gives the names of all variables that a command reads. -/
def variableNames : List String :=
  ["LITETABLE_LOG_LEVEL", "LITETABLE_FOREIGN_KEYS"] ++
    (Page.program :: Page.commandNames.map Prod.snd).flatMap fun page =>
      (page.options ++ page.helpOptions).flatMap CommandOption.environmentNames

/-- This function gives the paths of all files that a command may read. -/
def candidates (working : Path) (words : List String) : List Path :=
  let named := words.flatMap fun word => [word, (splitEquals word).2.getD word]
  let above := (List.range (working.segments.length + 1)).map fun count =>
    Path.child ⟨working.segments.drop count⟩ Settings.fileName
  named.map (Path.ofText working) ++ above

/-- This action reads the variables that are set. -/
def readVariables : List String → IO (List (String × String))
  | [] => pure []
  | name :: rest => do
      let others ← readVariables rest
      match ← IO.getEnv name with
      | some value => pure ((name, value) :: others)
      | none => pure others

/-- This action reads the files that can be read. -/
def readFiles : List Path → IO (List (Path × String))
  | [] => pure []
  | path :: rest => do
      let text ← (some <$> IO.FS.readFile path.toText) <|> pure none
      let others ← readFiles rest
      match text with
      | some text => pure ((path, text) :: others)
      | none => pure others

/-- This action gathers what a command finds around it. -/
def gather (words : List String) : IO Surroundings := do
  let working := Path.ofText .root ((← IO.getEnv "PWD").getD "/")
  let environment ← readVariables variableNames
  let files ← readFiles (candidates working (words ++ environment.map Prod.snd))
  pure {
    text? := fun path => files.lookup path
    environment := fun name => environment.lookup name
    working
    documents := Yaml.format }

end Tabular.Command

open Tabular in
/-- This program runs a command line and ends with its status. -/
def main (words : List String) : IO UInt32 := do
  let surroundings ← Command.gather words
  let input ← IO.getStdin
  let replies := Command.readReplies (← input.getLine)
  let (ending, _) := (Command.run surroundings words Command.lineReader).run
    Script.engine { replies }
  IO.print ending.console.output
  IO.eprint ending.console.errors
  match ending.failure with
  | some failure => IO.eprintln failure.message
  | none => pure ()
  pure (UInt32.ofNat ending.status)
