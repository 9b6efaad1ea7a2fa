import Tabular.Command.Manual
import Tabular.Command.Task
import Tabular.Number.Integer
import Tabular.Text.Blank
import Tabular.Text.Letter

/-!
This module reads command lines. An option that is not given can be set by a variable.
-/

namespace Tabular.Command

/-- What a command line asks for. -/
inductive Invocation where
  | showHelp (page : Page)
  | showVersion
  | perform (shared : Shared) (task : Task)
  deriving DecidableEq, Repr

/-- The options of a command line in order, with their values, and its arguments. -/
structure Scan where
  options : List (CommandOption × Option String) := []
  arguments : List String := []
  deriving DecidableEq

/-! ## Options and arguments -/

def startsWith (start text : String) : Bool := start.toList.isPrefixOf text.toList

/-- This function splits an option at its first equals sign. -/
def splitEquals (text : String) : String × Option String :=
  let name := text.toList.takeWhile (· ≠ '=')
  let rest := text.toList.drop name.length
  (String.ofList name, if rest.isEmpty then none else some (String.ofList (rest.drop 1)))

/-- This function reads switches that are given by their letters. -/
def scanLetters (known : List CommandOption) :
    List Char → Except UsageProblem (List (CommandOption × Option String))
  | [] => pure []
  | letter :: rest =>
      match known.find? fun option => option.letter == some letter with
      | some option => do pure ((option, none) :: (← scanLetters known rest))
      | none => throw (.unknownOption (String.ofList ['-', letter]))

namespace Scan

def addOption (option : CommandOption) (value : Option String) (scan : Scan) : Scan :=
  { scan with options := (option, value) :: scan.options }

def addOptions (options : List (CommandOption × Option String)) (scan : Scan) : Scan :=
  { scan with options := options ++ scan.options }

def addArgument (argument : String) (scan : Scan) : Scan :=
  { scan with arguments := argument :: scan.arguments }

end Scan

/-- This function tells options from arguments. After two dashes there are only arguments, and where
`stops` is set, also after the first argument. -/
def scan (known : List CommandOption) (stops : Bool) : List String → Except UsageProblem Scan
  | [] => pure {}
  | word :: rest =>
      if word = "--" then pure { arguments := rest }
      else if startsWith "-" word && word ≠ "-" then
        let (name, given) := splitEquals word
        match known.find? fun option => option.name == name with
        | some option =>
            match option.kind.takesValue, given, rest with
            | true, some value, rest => do pure ((← scan known stops rest).addOption option value)
            | true, none, value :: rest => do
                pure ((← scan known stops rest).addOption option (some value))
            | true, none, [] => throw (.missingValue name)
            | false, some _, _ => throw (.uselessValue name)
            | false, none, rest => do pure ((← scan known stops rest).addOption option none)
        | none =>
            if startsWith "--" word then throw (.unknownOption name)
            else do
              let options ← scanLetters known (word.toList.drop 1)
              pure ((← scan known stops rest).addOptions options)
      else if stops then pure { arguments := word :: rest }
      else do pure ((← scan known stops rest).addArgument word)

/-! ## Values of options -/

/-- This function splits at blanks. -/
def splitBlanks (text : List Char) : List String :=
  (text.foldr (fun c (word, words) =>
    if Text.isBlank c then ([], if word.isEmpty then words else String.ofList word :: words)
    else (c :: word, words)) ([], []) |> fun (word, words) =>
      if word.isEmpty then words else String.ofList word :: words)

def trueWords : List String := ["1", "true", "t", "yes", "y", "on"]

def falseWords : List String := ["0", "false", "f", "no", "n", "off"]

/-- The value of an option after it was read. -/
inductive OptionValue where
  | absent
  | switched (on : Bool)
  | texts (values : List String)
  | whole (value : Int)
  deriving DecidableEq, Repr

namespace CommandOption

/-- This function gives the first of the variables of an option that is set. -/
def environmentValue? (option : CommandOption) (surroundings : Surroundings) : Option String :=
  option.environmentNames.findSome? surroundings.setting?

/-- This function reads the value of a switch from a variable. -/
def readTruth (option : CommandOption) (value : String) : Except UsageProblem OptionValue :=
  let word := Text.lower (Text.strip value)
  if trueWords.contains word then pure (.switched true)
  else if falseWords.contains word then pure (.switched false)
  else throw (.notTruth option value)

/-- This function reads the last value of an option that is given or set by a variable. -/
def readValue (option : CommandOption) (surroundings : Surroundings) (value : String) :
    Except UsageProblem OptionValue :=
  match option.kind with
  | .switch => option.readTruth value
  | .text | .texts => pure (.texts [value])
  | .whole =>
      match IntegerText.read value with
      | .value whole => pure (.whole whole)
      | _ => throw (.notWhole option value)
  | .file =>
      if surroundings.isDirectory (surroundings.path value) then
        throw (.isDirectory option.name value)
      else pure (.texts [value])

/-- This function reads the value of an option. What is given counts more than a variable. -/
def read (option : CommandOption) (surroundings : Surroundings) (scan : Scan) :
    Except UsageProblem OptionValue :=
  let given := scan.options.filter fun entry => entry.1 == option
  match option.kind, given with
  | .switch, _ :: _ => pure (.switched true)
  | .texts, first :: rest => pure (.texts ((first :: rest).filterMap Prod.snd))
  | _, first :: rest =>
      match ((first :: rest).getLast?).bind Prod.snd with
      | some value => option.readValue surroundings value
      | none => pure .absent
  | kind, [] =>
      match option.environmentValue? surroundings with
      | none => pure .absent
      | some value =>
          if kind = .texts then pure (.texts (splitBlanks value.toList))
          else option.readValue surroundings value

end CommandOption

/-- The values of the options of a page. -/
abbrev OptionValues := List (CommandOption × OptionValue)

namespace OptionValues

def value (values : OptionValues) (name : String) : OptionValue :=
  ((values.find? fun entry => entry.1.name == name).map Prod.snd).getD .absent

def isOn (values : OptionValues) (name : String) : Bool := values.value name = .switched true

def texts (values : OptionValues) (name : String) : List String :=
  match values.value name with
  | .texts texts => texts
  | _ => []

def text? (values : OptionValues) (name : String) : Option String := (values.texts name).head?

def whole? (values : OptionValues) (name : String) : Option Int :=
  match values.value name with
  | .whole value => some value
  | _ => none

end OptionValues

/-! ## Order of reading -/

/-- This function splits the options of a page into those that are given, in the order in which they
are, and the others. -/
def inOrder (known : List CommandOption) (scan : Scan) : List CommandOption × List CommandOption :=
  let given := (scan.options.map Prod.fst).foldl
    (fun seen option => if seen.contains option then seen else seen ++ [option]) []
  (given.filter known.contains, known.filter fun option => !given.contains option)

def readAll (surroundings : Surroundings) (scan : Scan) :
    List CommandOption → Except UsageProblem OptionValues
  | [] => pure []
  | option :: rest => do
      let value ← option.read surroundings scan
      pure ((option, value) :: (← readAll surroundings scan rest))

/-- This function gives the first option for help that is switched on. -/
def firstHelp? (surroundings : Surroundings) (scan : Scan) :
    List CommandOption → Except UsageProblem (Option CommandOption)
  | [] => pure none
  | option :: rest => do
      if (← option.read surroundings scan) = .switched true then pure (some option)
      else firstHelp? surroundings scan rest

/-- This function tells whether help is asked for. -/
def askedHelp? (page : Page) (surroundings : Surroundings) (scan : Scan) :
    Except UsageProblem (Option CommandOption) :=
  let (given, others) := inOrder page.helpOptions scan
  firstHelp? surroundings scan (given ++ others)

/-- This function reads the argument of a command. A schema file has to exist. -/
def readArgument (page : Page) (surroundings : Surroundings) (scan : Scan) :
    Except UsageProblem String :=
  match scan.arguments with
  | [] => throw (.missingArgument page.argument)
  | value :: _ =>
      if page = .apply || page = .check then
        let path := surroundings.path value
        if value ≠ "" && surroundings.isFile path then pure value
        else if value ≠ "" && surroundings.isDirectory path then
          throw (.isDirectory page.argument value)
        else throw (.noSuchFile page.argument value)
      else pure value

/-- This function gives the task of a command. -/
def taskOf (page : Page) (argument : String) (values : OptionValues) : Task :=
  match page with
  | .apply => .apply argument (values.isOn "--strict")
  | .check => .check argument
  | .count => .count argument (values.text? "--where")
  | .find => .find argument (values.text? "--where") (values.texts "--order-by")
      (values.whole? "--limit") (values.whole? "--offset") (values.text? "--columns")
  | .inspect | .program => .inspect argument

/-- This function reads the words after the name of a command. Options that are given are read before the
argument, and the others after it. -/
def readCommand (page : Page) (surroundings : Surroundings) (shared : Shared)
    (words : List String) : Except UsageProblem Invocation := do
  let scanned ← scan (page.options ++ page.helpOptions) false words
  match ← askedHelp? page surroundings scanned with
  | some _ => pure (.showHelp page)
  | none =>
      let (given, others) := inOrder page.options scanned
      let first ← readAll surroundings scanned given
      let argument ← readArgument page surroundings scanned
      let last ← readAll surroundings scanned others
      if 1 < scanned.arguments.length then throw (.extraArguments (scanned.arguments.drop 1))
      pure (.perform shared (taskOf page argument (first ++ last)))

/-- This function names the page of every problem. -/
def onPage {α : Type} (page : Page) (result : Except UsageProblem α) : Except UsageError α :=
  result.mapError fun problem => ⟨page, problem⟩

/-- This function reads a command line. Without a command it asks for help. -/
def readLine (surroundings : Surroundings) (words : List String) : Except UsageError Invocation := do
  let known := Page.program.options ++ Page.program.helpOptions
  let scanned ← onPage .program (scan known true words)
  match ← onPage .program (askedHelp? .program surroundings scanned) with
  | some option =>
      pure (if option.name = "--version" then .showVersion else .showHelp .program)
  | none =>
      let (given, others) := inOrder Page.program.options scanned
      let values ← onPage .program (readAll surroundings scanned (given ++ others))
      let shared : Shared := {
        database := OptionValues.text? values "--db"
        settingsFile := OptionValues.text? values "--config"
        json := OptionValues.isOn values "--json"
        verbose := OptionValues.isOn values "--verbose" }
      match scanned.arguments with
      | [] => pure (.showHelp .program)
      | name :: rest =>
          match Page.ofName? name with
          | some page => onPage page (readCommand page surroundings shared rest)
          | none =>
              let _ ← onPage .program (scan known true [name])
              throw ⟨.program, .unknownCommand name⟩

/-- This function reads a command line as a task. Help, the version and a line that is not accepted end the
command at once. -/
def lineReader : LineReader := fun surroundings words =>
  match readLine surroundings words with
  | .error error => .error { status := 2, console := { errors := error.text } }
  | .ok (.showHelp page) => .error { status := 0, console := { output := page.help } }
  | .ok .showVersion => .error { status := 0, console := { output := versionLine } }
  | .ok (.perform shared task) => .ok (shared, task)

end Tabular.Command
