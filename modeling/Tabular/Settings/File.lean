import Tabular.Program
import Tabular.Settings
import Tabular.Surroundings
import Tabular.Text.Letter
import Tabular.Value.Display

/-!
This module reads settings from a file and from variables, and writes the settings that are not the
usual ones.
-/

namespace Tabular.Settings

def fileName : String := "litetable.yaml"

def memory : String := ":memory:"

/-- These words, in any case, switch a setting on. -/
def onWords : List String := ["1", "true", "yes", "on"]

/-- This function reads a switch. A text is on if it is one of the words for that. -/
def isOn (value : Value) : Bool :=
  match value with
  | .text word => onWords.contains (Text.lower word)
  | value => value.isTrue

def entryOr (entries : List (Value × Value)) (name : String) (usual : Value) : Value :=
  (Keyed.get? entries (.text name)).getD usual

/-- This function places a database relative to a directory, unless it is in memory. -/
def placed (directory : Path) (database : Value) : Except Failure String :=
  match database with
  | .text name => pure (if name = memory then name else directory.join name)
  | _ => throw .wrongType

/-- This function reads the entries of a settings file in a directory. -/
def ofFileEntries (directory : Path) (entries : List (Value × Value)) : Except Failure Settings := do
  let usual : Settings := {}
  let busyTimeout ← (entryOr entries "busy-timeout" usual.busyTimeout).toInteger
  let streamPrefetch ← (entryOr entries "stream-prefetch" (.int usual.streamPrefetch)).toInteger
  let writeBatchSize ← (entryOr entries "write-batch-size" (.int usual.writeBatchSize)).toInteger
  let database ← placed directory (entryOr entries "database" (.text usual.database))
  pure {
    database
    journalMode := entryOr entries "journal-mode" usual.journalMode
    busyTimeout := .int busyTimeout
    foreignKeys := .bool (isOn (entryOr entries "foreign-keys" usual.foreignKeys))
    streamPrefetch
    writeBatchSize
    logLevel := Text.upper (entryOr entries "log-level" (.text usual.logLevel)).toText }

/-- This function reads the document of a settings file. An empty document has no entries. -/
def ofDocument (directory : Path) (document : Value) : Except Failure Settings :=
  match document with
  | .map entries => ofFileEntries directory entries
  | document => if document.isTrue then throw .missingAttribute else ofFileEntries directory []

/-- This function lets variables that are set take the place of settings. -/
def withVariables (settings : Settings) (surroundings : Surroundings) : Settings where
  database := (surroundings.setting? "LITETABLE_DB").getD settings.database
  journalMode := settings.journalMode
  busyTimeout := settings.busyTimeout
  foreignKeys := match surroundings.setting? "LITETABLE_FOREIGN_KEYS" with
    | some word => .bool (isOn (.text word))
    | none => settings.foreignKeys
  streamPrefetch := settings.streamPrefetch
  writeBatchSize := settings.writeBatchSize
  logLevel := ((surroundings.setting? "LITETABLE_LOG_LEVEL").map Text.upper).getD settings.logLevel

/-- This function loads the settings of a file and of the variables. A file that is absent has none. -/
def load (surroundings : Surroundings) (file : Option String) : Except Failure Settings := do
  match file.filter (· ≠ "") with
  | none => pure (withVariables {} surroundings)
  | some file => do
      let path := surroundings.path file
      if surroundings.isDirectory path then throw (.directory file)
      match surroundings.text? path with
      | none => pure (withVariables {} surroundings)
      | some text => do
          let settings ← ofDocument path.parent (← surroundings.documents.read text)
          pure (settings.withVariables surroundings)

/-- This function finds the settings file that is nearest to a directory. -/
def find (surroundings : Surroundings) (start : Option String) : Option Path :=
  Path.nearest surroundings.isFile fileName
    ((start.map surroundings.path).getD surroundings.working)

/-- This function gives the entries that are saved, in the order of their names: the database, and what
is not usual. -/
def savedEntries (settings : Settings) : List (Value × Value) :=
  let usual : Settings := {}
  let keep (test : Bool) (name : String) (value : Value) : List (Value × Value) :=
    if test then [(.text name, value)] else []
  keep (!settings.busyTimeout.same usual.busyTimeout) "busy-timeout" settings.busyTimeout ++
    keep true "database" (.text settings.database) ++
    keep settings.foreignKeys.isTrue "foreign-keys" settings.foreignKeys ++
    keep settings.journalMode.isTrue "journal-mode" settings.journalMode ++
    keep (settings.logLevel ≠ usual.logLevel) "log-level" (.text settings.logLevel) ++
    keep (settings.streamPrefetch ≠ usual.streamPrefetch) "stream-prefetch"
      (.int settings.streamPrefetch) ++
    keep (settings.writeBatchSize ≠ usual.writeBatchSize) "write-batch-size"
      (.int settings.writeBatchSize)

/-- This function writes the text of a settings file. -/
def toText (settings : Settings) (documents : DocumentFormat := Yaml.format) : String :=
  documents.write (.map settings.savedEntries)

/-- This function saves settings in a file, whose directory has to be there. -/
def save (settings : Settings) (surroundings : Surroundings) (file : String) :
    Except Failure Surroundings :=
  let path := surroundings.path file
  if file = "" || !surroundings.isDirectory path.parent then throw (.fileMissing file)
  else if surroundings.isDirectory path then throw (.directory file)
  else pure (surroundings.withFile path (settings.toText surroundings.documents))

/-- This function tells whether two settings are equal. -/
def same (first second : Settings) : Bool :=
  first.database = second.database && first.journalMode.same second.journalMode &&
    first.busyTimeout.same second.busyTimeout && first.foreignKeys.same second.foreignKeys &&
    first.streamPrefetch = second.streamPrefetch && first.writeBatchSize = second.writeBatchSize &&
    first.logLevel = second.logLevel

/-- This function gives the settings that are loaded from a file that was just saved. -/
def reload (settings : Settings) (surroundings : Surroundings) (file : Path) :
    Except Failure Settings := do
  let documents := surroundings.documents
  let loaded ← ofDocument file.parent (← documents.read (settings.toText documents))
  pure (loaded.withVariables surroundings)

/-! ## Levels -/

/-- The names of levels with their numbers. -/
def levels : List (String × Int) := [("CRITICAL", 50), ("FATAL", 50), ("ERROR", 40),
  ("WARN", 30), ("WARNING", 30), ("INFO", 20), ("DEBUG", 10), ("NOTSET", 0)]

/-- This function gives the number of a named level. Any other name stands for a warning. -/
def levelNumber (name : String) : Int := (levels.lookup (Text.upper name)).getD Level.warning.number

end Tabular.Settings
