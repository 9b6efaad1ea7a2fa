import Tabular.Text.Quoted

/-!
This module holds what the command line accepts: the commands, their options, their pages of help, and
the messages for a command line that is not accepted.
-/

namespace Tabular.Command

/-- A page of the manual: the program itself or one of its commands. -/
inductive Page where
  | program
  | apply
  | check
  | count
  | find
  | inspect
  deriving DecidableEq, Repr

/-- What an option takes. A switch takes nothing, and an option for several texts may be repeated. -/
inductive OptionKind where
  | switch
  | text
  | texts
  | whole
  | file
  deriving DecidableEq, Repr

/-- An option with its long names, its letter, and the names of the variables that can set it. -/
structure CommandOption where
  name : String
  letter : Option Char := none
  kind : OptionKind
  environmentNames : List String
  deriving DecidableEq, Repr

def OptionKind.takesValue : OptionKind → Bool
  | .switch => false
  | _ => true

namespace CommandOption

/-- This function names an option in a message. -/
def shownName (option : CommandOption) : String :=
  let long := "\x27" ++ option.name ++ "\x27"
  match option.letter with
  | some letter => long ++ " / \x27-" ++ String.ofList [letter] ++ "\x27"
  | none => long

end CommandOption

namespace Page

def commandNames : List (String × Page) :=
  [("apply", .apply), ("check", .check), ("count", .count), ("find", .find), ("inspect", .inspect)]

def ofName? (name : String) : Option Page := commandNames.lookup name

def name : Page → String
  | .program => "litetable"
  | .apply => "litetable apply"
  | .check => "litetable check"
  | .count => "litetable count"
  | .find => "litetable find"
  | .inspect => "litetable inspect"

/-- This function names the argument of a command. -/
def argument : Page → String
  | .apply | .check => "SCHEMA_FILE"
  | _ => "TABLE_NAME"

def usage (page : Page) : String :=
  match page with
  | .program => page.name ++ " [OPTIONS] [COMMAND] [ARGS]..."
  | page => page.name ++ " [OPTIONS] " ++ page.argument

/-- This function gives the start of the names of the variables of a page. -/
def variableStart : Page → String
  | .program => "LITETABLE_"
  | .apply => "LITETABLE_APPLY_"
  | .check => "LITETABLE_CHECK_"
  | .count => "LITETABLE_COUNT_"
  | .find => "LITETABLE_FIND_"
  | .inspect => "LITETABLE_INSPECT_"

def option (page : Page) (name ending : String) (kind : OptionKind) : CommandOption :=
  { name, kind, environmentNames := [page.variableStart ++ ending] }

/-- This function gives the options of a page that end the command with a text. -/
def helpOptions (page : Page) : List CommandOption :=
  match page with
  | .program => [page.option "--version" "VERSION" .switch, page.option "--help" "HELP" .switch]
  | page => [page.option "--help" "HELP" .switch]

/-- This function gives the other options of a page. -/
def options (page : Page) : List CommandOption :=
  match page with
  | .program => [
      { name := "--db", kind := .text, environmentNames := ["LITETABLE_DB", "LITETABLE_DB_PATH"] },
      page.option "--config" "CONFIG_PATH" .file,
      page.option "--json" "JSON_OUTPUT" .switch,
      { page.option "--verbose" "VERBOSE" .switch with letter := some 'v' }]
  | .apply => [page.option "--strict" "STRICT" .switch]
  | .check | .inspect => []
  | .count => [page.option "--where" "WHERE_TEXT" .text]
  | .find => [page.option "--where" "WHERE_TEXT" .text, page.option "--order-by" "ORDER_BY" .texts,
      page.option "--limit" "LIMIT" .whole, page.option "--offset" "OFFSET" .whole,
      page.option "--columns" "COLUMNS_TEXT" .text]

def description : Page → String
  | .program => "  litetable - declarative SQLite tables and Mongo-style queries\n"
  | .apply => "  Bring every table declared in SCHEMA_FILE in line with the database.\n"
  | .check => "  Compare tables declared in SCHEMA_FILE with the database.\n\n" ++
      "  Exits with status 1 when any table is absent or differs.\n"
  | .count => "  Count rows of TABLE_NAME.\n"
  | .find => "  Print rows of TABLE_NAME as JSON lines.\n"
  | .inspect => "  Show the introspected schema of TABLE_NAME.\n"

def optionLines : Page → String
  | .program =>
      "  --db TEXT      Path to database file\n" ++
      "  --config FILE  Path to litetable.yaml\n" ++
      "  --json         Output as JSON\n" ++
      "  -v, --verbose  Log every SQL statement\n" ++
      "  --version      Show the version and exit.\n" ++
      "  --help         Show this message and exit.\n"
  | .apply =>
      "  --strict  Refuse to migrate tables that differ from their declaration\n" ++
      "  --help    Show this message and exit.\n"
  | .check | .inspect => "  --help  Show this message and exit.\n"
  | .count =>
      "  --where TEXT  Filter as JSON\n" ++
      "  --help        Show this message and exit.\n"
  | .find =>
      "  --where TEXT      Filter as JSON, e.g. '\x7b\"age\": \x7b\"$gt\": 30\x7d\x7d'\n" ++
      "  --order-by TEXT   COLUMN or COLUMN:desc\n" ++
      "  --limit INTEGER   Maximum number of rows\n" ++
      "  --offset INTEGER  Rows to skip\n" ++
      "  --columns TEXT    Comma-separated columns to select\n" ++
      "  --help            Show this message and exit.\n"

def commandLines : String :=
  "\nCommands:\n" ++
  "  apply    Bring every table declared in SCHEMA_FILE in line with the...\n" ++
  "  check    Compare tables declared in SCHEMA_FILE with the database.\n" ++
  "  count    Count rows of TABLE_NAME.\n" ++
  "  find     Print rows of TABLE_NAME as JSON lines.\n" ++
  "  inspect  Show the introspected schema of TABLE_NAME.\n"

/-- This function gives the text of a page. -/
def help (page : Page) : String :=
  "Usage: " ++ page.usage ++ "\n\n" ++ page.description ++ "\nOptions:\n" ++ page.optionLines ++
    if page = .program then commandLines else ""

end Page

def versionLine : String := "litetable, version 0.3.0\n"

/-- A reason for which a command line is not accepted. -/
inductive UsageProblem where
  | unknownCommand (name : String)
  | unknownOption (name : String)
  | missingArgument (name : String)
  | extraArguments (values : List String)
  | missingValue (option : String)
  | uselessValue (option : String)
  | notWhole (option : CommandOption) (value : String)
  | notTruth (option : CommandOption) (value : String)
  | noSuchFile (parameter : String) (file : String)
  | isDirectory (parameter : String) (file : String)
  deriving DecidableEq, Repr

def UsageProblem.message : UsageProblem → String
  | .unknownCommand name => "No such command " ++ Text.literal name ++ "."
  | .unknownOption name => "No such option: " ++ name
  | .missingArgument name => "Missing argument \x27" ++ name ++ "\x27."
  | .extraArguments values =>
      (if values.length = 1 then "Got unexpected extra argument ("
        else "Got unexpected extra arguments (") ++ String.intercalate " " values ++ ")"
  | .missingValue option => "Option " ++ Text.literal option ++ " requires an argument."
  | .uselessValue option => "Option " ++ Text.literal option ++ " does not take a value."
  | .notWhole option value => "Invalid value for " ++ option.shownName ++ ": " ++
      Text.literal value ++ " is not a valid integer."
  | .notTruth option value => "Invalid value for " ++ option.shownName ++ ": " ++
      Text.literal value ++ " is not a valid boolean."
  | .noSuchFile parameter file => "Invalid value for \x27" ++ parameter ++ "\x27: File " ++
      Text.literal file ++ " does not exist."
  | .isDirectory parameter file => "Invalid value for \x27" ++ parameter ++ "\x27: File " ++
      Text.literal file ++ " is a directory."

/-- A command line that is not accepted, with the page that tells what would be. -/
structure UsageError where
  page : Page
  problem : UsageProblem
  deriving DecidableEq, Repr

def UsageError.text (error : UsageError) : String :=
  "Usage: " ++ error.page.usage ++ "\nTry \x27" ++ error.page.name ++ " --help\x27 for help.\n\n" ++
    "Error: " ++ error.problem.message ++ "\n"

end Tabular.Command
