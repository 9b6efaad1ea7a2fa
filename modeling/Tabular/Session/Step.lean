import Tabular.Schema.Declaration
import Tabular.Session.Call
import Tabular.Session.Property

/-!
This module plays the steps of a session. A step makes an object, reads a property, makes calls,
fails on purpose, or encloses other steps in a block. Every step starts with its own replies and
ends with an entry that tells its outcome.
-/

namespace Tabular

/-- A kind of object that a step can make. -/
inductive Kind where
  | database
  | table
  | reconciler
  | mapTable
  | query
  | rawQuery
  | reader
  | writer
  | extender
  deriving DecidableEq, Repr

/-- What a step does that encloses no other steps. -/
inductive Deed where
  | make (kind : Kind) (arguments : List Argument)
  | property (target : String) (property : Property)
  | calls (target : String) (calls : List Call)
  | fail (cause : Outside)

/-- What a block is about: the object of a register, or a transaction of the current database. -/
inductive BlockTarget where
  | register (name : String)
  | transaction
  deriving DecidableEq, Repr

/-- A step of a session. A step that is marked as leaving leaves its block when it fails. -/
inductive Step where
  | simple (replies : List Reply) (leaves : Bool) (register : Option String) (deed : Deed)
  | block (replies : List Reply) (leaves : Bool) (target : BlockTarget) (steps : List Step)

instance : Inhabited Step := ⟨.block [] false .transaction []⟩

/-- What a step did: its outcome, its exchanges with the engine, the rows that its callbacks saw, and
the entries of the steps that it encloses. -/
inductive Entry where
  | mk (outcome : Except Failure Object) (exchanges : List Exchange) (seen : List Row)
      (inner : Option (List Entry))

namespace Settings

/-- This function reads the settings that are given by name. -/
def ofEntries (entries : List (Value × Value)) : Except Failure Settings :=
  entries.foldlM (fun settings entry =>
    match entry with
    | (.text "database", .text value) => pure { settings with database := value }
    | (.text "journal_mode", value) => pure { settings with journalMode := value }
    | (.text "busy_timeout", value) => pure { settings with busyTimeout := value }
    | (.text "foreign_keys", value) => pure { settings with foreignKeys := value }
    | (.text "stream_prefetch", value) =>
        match value.integer? with
        | some size => pure { settings with streamPrefetch := size }
        | none => throw .wrongType
    | (.text "write_batch_size", value) =>
        match value.integer? with
        | some size => pure { settings with writeBatchSize := size }
        | none => throw .wrongType
    | (.text "log_level", .text value) => pure { settings with logLevel := value }
    | _ => throw .wrongType) {}

end Settings

namespace Session

/-! ## New objects -/

/-- This play makes a database and opens it, unless it is told not to. -/
def makeDatabase (arguments : List Argument) : Play Object := do
  let path := (← optional arguments 0).text?
  let settings ← match ← optional arguments 1 with
    | .map entries => do pure (some (← taken (Settings.ofEntries entries)))
    | _ => pure none
  let number ← addDatabase (Database.make path settings)
  if ← flag arguments 2 true then onDatabase number Database.open
  pure (.database number)

/-- This play makes an object of a kind. -/
def make (kind : Kind) (arguments : List Argument) : Play Object := do
  checkArguments arguments
  match kind with
  | .database => makeDatabase arguments
  | .table => do
      let database ← currentDatabase
      pure (.table database (← taken (Schema.ofValue (← needed arguments 0))))
  | .reconciler => do
      let database ← currentDatabase
      pure (.reconciler database (← taken (Schema.ofValue (← needed arguments 0))))
  | .mapTable => do pure (.mapTable (← currentDatabase) ⟨← needed arguments 0⟩)
  | .query => do pure (.query (← currentDatabase) Query.empty)
  | .rawQuery => do
      let database ← currentDatabase
      let sql ← neededText arguments 0
      pure (.rawQuery database ⟨sql, ← optional arguments 1⟩)
  | .writer => do
      let database ← currentDatabase
      let table ← needed arguments 0
      let replaces ← flag arguments 1 false
      addWriter database table replaces ((← optionalSize arguments 2).getD 256)
  | .reader =>
      match ← neededObject arguments 0 with
      | .statement database number => do
          let prefetch := (← optionalSize arguments 1).getD 1024
          addReader database number (some prefetch) (← flag arguments 2 true)
      | _ => throw .wrongType
  | .extender =>
      match ← neededObject arguments 0 with
      | .table database schema => pure (.extender database schema)
      | _ => throw .wrongType

/-! ## Blocks -/

/-- A block that was entered, with what leaving it needs to know. -/
inductive Entered where
  | database (number : Nat)
  | transaction (database : Nat) (began : Bool)
  | statement (number : Nat)
  | reader (number : Nat)
  | writer (database number : Nat)

/-- This play enters a block. -/
def enter (target : BlockTarget) : Play Entered := do
  match target with
  | .transaction => do
      let number ← currentDatabase
      let database := (← get).databaseAt number
      pure (.transaction number (← stateless database.enter))
  | .register name =>
      match ← register name with
      | .database number => do
          onDatabase number Database.open
          pure (.database number)
      | .statement _ number => pure (.statement number)
      | .reader _ number => pure (.reader number)
      | .writer database number => pure (.writer database number)
      | _ => throw .missingAttribute

/-- This play leaves a block after an outcome. The outcome counts unless leaving fails itself. -/
def leave (entered : Entered) (outcome : Except Failure Unit) : Play Unit := do
  match entered with
  | .database number => onDatabase number Database.close
  | .transaction number began =>
      if began then
        let database := (← get).databaseAt number
        stateless (database.leave outcome)
  | .statement number => onStatement number Statement.finalize
  | .reader number => onReader number Reading.close
  | .writer number writer => do
      let database := (← get).databaseAt number
      match outcome with
      | .ok _ => onWriter writer (WriteStream.close database)
      | .error _ => onWriter writer WriteStream.abort
  taken outcome

/-! ## Steps -/

/-- This play does what a step does and keeps the result in a register. -/
def performDeed (deed : Deed) : Play Object := do
  match deed with
  | .make kind arguments => make kind arguments
  | .property target property => do Session.property (← register target) property
  | .calls target calls => do Session.calls (← register target) calls
  | .fail cause => throw (.outside cause)

/-- This function gives the session at the start of a step with its own replies. -/
def begin (session : Session) (replies : List Reply) : Session :=
  { session with script := { session.script with replies }, exchanges := [], seen := [] }

/-- This function gives the entry of a step that has just ended. -/
def entry (session : Session) (outcome : Except Failure Object) (inner : Option (List Entry)) :
    Entry :=
  .mk outcome session.exchanges session.seen inner

/-- This function gives the failure of an outcome as the outcome of a block, if it leaves it. -/
def leaving {α : Type} (leaves : Bool) (outcome : Except Failure α) : Except Failure Unit :=
  match outcome with
  | .error failure => if leaves then .error failure else .ok ()
  | .ok _ => .ok ()

/-- This function leaves a block with the replies and the exchanges that entering it left. -/
def finish (before session : Session) (entered : Entered) (outcome : Except Failure Unit)
    (entries : List Entry) : Except Failure Object × Entry × Session :=
  let (left, session) := Session.play (leave entered outcome) { session with
    script := { session.script with replies := before.script.replies }
    exchanges := before.exchanges
    seen := before.seen }
  let outcome := left.map fun _ => Object.nothing
  (outcome, session.entry outcome (some entries), session)

mutual

/-- This function plays a step and tells whether its block is left, with the entry of the step. -/
def step (session : Session) : Step → Except Failure Unit × Entry × Session
  | .simple replies leaves name deed =>
      let (outcome, session) := Session.play (do
        let result ← performDeed deed
        match name with
        | some name => setRegister name result
        | none => pure ()
        pure result) (session.begin replies)
      (leaving leaves outcome, session.entry outcome none, session)
  | .block replies leaves target inner =>
      match Session.play (enter target) (session.begin replies) with
      | (.error failure, session) =>
          (leaving leaves (.error failure : Except Failure Unit),
            session.entry (.error failure) none, session)
      | (.ok entered, session) =>
          let (outcome, entries, after) := steps session inner
          let (outcome, entry, session) := finish session after entered outcome entries
          (leaving leaves outcome, entry, session)

/-- This function plays steps up to the first one that leaves the block. -/
def steps (session : Session) : List Step → Except Failure Unit × List Entry × Session
  | [] => (.ok (), [], session)
  | first :: rest =>
      match step session first with
      | (.error failure, entry, session) => (.error failure, [entry], session)
      | (.ok _, entry, session) =>
          let (outcome, entries, session) := steps session rest
          (outcome, entry :: entries, session)

end

/-- This function plays a whole session. A step at the top never ends it, but without its database
there is no session. -/
def playAll (database : Step) (list : List Step) (clock : Binary64) : List Entry :=
  let start : Session := { script := { clock } }
  let (_, first, session) := step start database
  match first with
  | .mk (.error _) _ _ _ => [first]
  | .mk (.ok _) _ _ _ => first :: playTop session list
where
  /-- This function plays the steps at the top of a session. -/
  playTop (session : Session) : List Step → List Entry
    | [] => []
    | next :: rest =>
        let (_, entry, session) := step session next
        entry :: playTop session rest

end Session

end Tabular
