import Tabular.Failure

/-!
This module holds programs that talk to a database engine. A program either is done or asks one
request and goes on with the answer, so that it can be run against any engine, and so that several
programs can take turns.
-/

namespace Tabular

/-- A connection that an engine has opened. -/
structure Connection where
  number : Nat
  deriving DecidableEq, Repr

/-- A cursor of a connection. -/
structure Cursor where
  connection : Connection
  number : Nat
  deriving DecidableEq, Repr

/-- The outcome of a statement that changes rows. -/
structure RunResult where
  lastInsertId : Option Int
  changes : Int
  deriving DecidableEq, Repr

/-- A level of importance of a record. -/
inductive Level where
  | debug
  | info
  | warning
  deriving DecidableEq, Repr

def Level.number : Level → Int
  | .debug => 10
  | .info => 20
  | .warning => 30

def Level.name : Level → String
  | .debug => "DEBUG"
  | .info => "INFO"
  | .warning => "WARNING"

/-- A record of what a program does. -/
structure LogRecord where
  level : Level
  logger : String
  message : String
  deriving DecidableEq, Repr

/-- A request to the engine or to the surroundings of a program. -/
inductive Request where
  | connect (path : String)
  | disconnect (connection : Connection)
  | inTransaction (connection : Connection)
  | script (connection : Connection) (text : String)
  | cursor (connection : Connection)
  | execute (cursor : Cursor) (sql : String) (parameters : Value)
  | fetchOne (cursor : Cursor)
  | fetchMany (cursor : Cursor) (count : Int)
  | fetchAll (cursor : Cursor)
  | rows (cursor : Cursor)
  | advance (cursor : Cursor) (count : Nat)
  | remaining (cursor : Cursor)
  | closeCursor (cursor : Cursor)
  | log (entry : LogRecord)
  | threshold (level : Int)
  | time
  deriving DecidableEq

/-- The answers to a request. The rows of a cursor are seen without being taken, together with the
failure at which they end, and `advance` takes them. -/
abbrev Request.Answer : Request → Type
  | .connect _ => Except Outside Connection
  | .disconnect _ => Unit
  | .inTransaction _ => Bool
  | .script _ _ => Except Outside Unit
  | .cursor _ => Cursor
  | .execute _ _ _ => Except Outside RunResult
  | .fetchOne _ => Except Outside (Option Row)
  | .fetchMany _ _ => Except Outside (List Row)
  | .fetchAll _ => Except Outside (List Row)
  | .rows _ => List Row × Option Outside
  | .advance _ _ => Unit
  | .remaining _ => Nat
  | .closeCursor _ => Unit
  | .log _ => Unit
  | .threshold _ => Unit
  | .time => Binary64

/-- A program is done, or asks a request and goes on with its answer. -/
inductive Program (α : Type) where
  | done (result : α)
  | ask (request : Request) (next : request.Answer → Program α)

namespace Program

variable {α β γ : Type}

/-- This function goes on with a second program where the first one is done. -/
def bind : Program α → (α → Program β) → Program β
  | .done result, next => next result
  | .ask request rest, next => .ask request fun answer => (rest answer).bind next

instance : Monad Program where
  pure := .done
  bind := bind

theorem bindDone (program : Program α) : program.bind .done = program := by
  induction program with
  | done result => rfl
  | ask request rest inductionHypothesis =>
      simp only [bind]
      congr 1
      funext answer
      exact inductionHypothesis answer

theorem bindAssoc (program : Program α) (first : α → Program β) (second : β → Program γ) :
    (program.bind first).bind second = program.bind fun result => (first result).bind second := by
  induction program with
  | done result => rfl
  | ask request rest inductionHypothesis =>
      simp only [bind]
      congr 1
      funext answer
      exact inductionHypothesis answer

instance : LawfulMonad Program :=
  LawfulMonad.mk' Program bindDone (fun _ _ => rfl) bindAssoc

end Program

/-- An action carries a state along, which it keeps also when it fails. -/
abbrev Action (σ α : Type) := ExceptT Failure (StateT σ Program) α

namespace Action

variable {σ τ α : Type}

/-- This action asks one request. -/
def ask (request : Request) : Action σ request.Answer :=
  ExceptT.mk fun state => .ask request fun answer => .done (.ok answer, state)

/-- This function gives the program of an action that starts in a state. -/
def start (action : Action σ α) (state : σ) : Program (Except Failure α × σ) :=
  (ExceptT.run action).run state

/-- This action gives the outcome of another one and does not fail. -/
def attempt (action : Action σ α) : Action σ (Except Failure α) :=
  ExceptT.mk fun state => do
    let (outcome, state) ← action.start state
    pure (.ok outcome, state)

/-- This action goes on with an outcome. -/
def resume (outcome : Except Failure α) : Action σ α := ExceptT.mk (pure outcome)

/-- This action runs one action and then another one, whether or not the first one fails. A failure
of the second one counts more. -/
def ensuring (action : Action σ α) (last : Action σ Unit) : Action σ α := do
  let outcome ← attempt action
  last
  resume outcome

/-- This action runs an action on a part of its state. -/
def onPart (part : τ → σ) (replace : τ → σ → τ) (action : Action σ α) : Action τ α :=
  ExceptT.mk fun whole => do
    let (outcome, state) ← action.start (part whole)
    pure (outcome, replace whole state)

/-- This action carries a state of its own and drops it at the end. -/
def locally (action : Action τ α) (state : τ) : Action σ α :=
  ExceptT.mk fun outer => do
    let (outcome, _) ← action.start state
    pure (outcome, outer)

/-- This action writes a record. -/
def log (level : Level) (logger message : String) : Action σ Unit :=
  ask (.log ⟨level, logger, message⟩)

end Action

end Tabular
