import Tabular.Proofs.Stream.Counting

/-!
This module follows a failure of the driver through a stream. The call in which an execution or a fetch
is refused raises it, with the text and the parameters of the statement.
-/

namespace Tabular

/-- The cause for which an execution or the fetch of a chunk is refused. -/
def Exchange.refusal? : Exchange → Option Outside
  | ⟨.execute _ _ _, .error cause⟩ => some cause
  | ⟨.fetchMany _ _, .error cause⟩ => some cause
  | _ => none

open Tabular.Action Exchange

variable {σ τ α β : Type} {engine : Engine τ} {database : Database} {start : τ} {sql : String}
  {parameters : Value}

/-- A run in which a request is refused ends with the cause, attached to a statement. -/
def Run.Raises (sql : String) (parameters : Value) (run : Run σ τ α) : Prop :=
  ∀ exchange ∈ run.exchanges, ∀ cause, exchange.refusal? = some cause →
    run.outcome = .error ((Failure.outside cause).attach sql parameters)

/-- A run without a refused request raises nothing. -/
theorem Run.Raises.of_silent {run : Run σ τ α}
    (silent : ∀ exchange ∈ run.exchanges, exchange.refusal? = none) : run.Raises sql parameters := by
  intro exchange member cause refused
  rw [silent exchange member] at refused
  cases refused

/-- A run that returns has had no request refused. -/
theorem Run.Raises.silent {run : Run σ τ α} (raises : run.Raises sql parameters) {value : α}
    (returns : run.outcome = .ok value) : ∀ exchange ∈ run.exchanges, exchange.refusal? = none := by
  intro exchange member
  cases refused : exchange.refusal? with
  | none => rfl
  | some cause => cases returns.symm.trans (raises exchange member cause refused)

namespace Statement

variable {statement : Statement}

/-- A statement has this text and these parameters. -/
structure Named (sql : String) (parameters : Value) (statement : Statement) : Prop where
  text : statement.sql = sql
  values : statement.parameters = parameters

/-- To ask for the cursor leaves the text and the parameters as they are. -/
theorem Reached.named {run : Run Statement τ Cursor}
    (reached : Reached engine database statement start run) (named : statement.Named sql parameters) :
    run.state.Named sql parameters := by
  cases reached <;> exact ⟨named.text, named.values⟩

/-- A refused execution is raised where the cursor is asked for. -/
theorem Reached.raises {run : Run Statement τ Cursor}
    (reached : Reached engine database statement start run) (named : statement.Named sql parameters) :
    run.Raises sql parameters := by
  obtain ⟨rfl, rfl⟩ := named
  cases reached with
  | held | finalized | unconnected => exact .of_silent (List.forall_mem_nil _)
  | @executed _ _ _ _ cursor _ _ answer answered =>
      cases answer with
      | ok result => exact .of_silent (by simp [execution, refusal?])
      | error cause => simp [Run.Raises, execution, refusal?, raised, Except.map]

/-- To fetch a chunk leaves the text and the parameters as they are. -/
theorem Took.named {count : Int} {run : Run Statement τ (List Row)}
    (took : Took engine database count statement start run) (named : statement.Named sql parameters) :
    run.state.Named sql parameters := by
  cases took with
  | refused reached fails => exact reached.named named
  | answered reached reaches answers => exact reached.named named

/-- A refused fetch of a chunk is raised, and so is a refused execution before it. -/
theorem Took.raises {count : Int} {run : Run Statement τ (List Row)}
    (took : Took engine database count statement start run) (named : statement.Named sql parameters) :
    run.Raises sql parameters := by
  cases took with
  | refused reached fails =>
      intro exchange member cause refused
      have raised := reached.raises named exchange member cause refused
      cases fails.symm.trans raised
      rfl
  | @answered first reached cursor reaches answer final answers =>
      obtain ⟨text, values⟩ := reached.named named
      have silent := (reached.raises named).silent reaches
      rw [text, values]
      cases answer with
      | ok rows =>
          refine .of_silent (List.forall_mem_append.mpr ⟨silent, ?_⟩)
          exact List.forall_mem_singleton.mpr rfl
      | error cause =>
          -- The requests before the fetch were not refused, so the only cause is its own.
          intro exchange member other refused
          rcases List.mem_append.mp member with earlier | last
          · cases (silent exchange earlier).symm.trans refused
          · cases List.mem_singleton.mp last
            cases refused
            rfl

/-- To finalize a statement leaves its text and its parameters as they are. -/
theorem Finalized.named {run : Run Statement τ Unit}
    (finalized : Finalized engine statement start run) (named : statement.Named sql parameters) :
    run.state.Named sql parameters := by
  cases finalized <;> exact ⟨named.text, named.values⟩

/-- To finalize a statement asks for nothing that can be refused. -/
theorem Finalized.silent {run : Run Statement τ Unit}
    (finalized : Finalized engine statement start run) :
    ∀ exchange ∈ run.exchanges, exchange.refusal? = none := by
  cases finalized with
  | already | bare => exact List.forall_mem_nil _
  | closed => exact List.forall_mem_singleton.mpr rfl

end Statement

namespace Reading

variable {reading : Reading}

/-- A run on a stream keeps the statement, and it raises what is refused. -/
structure Raising (sql : String) (parameters : Value) (run : Run Reading τ α) : Prop where
  named : run.state.statement.Named sql parameters
  raises : run.Raises sql parameters

/-- To close a stream leaves its statement as it is. -/
theorem Closed.named {run : Run Reading τ Unit} (closes : Closed engine reading start run)
    (named : reading.statement.Named sql parameters) : run.state.statement.Named sql parameters := by
  cases closes with
  | already | borrowed => exact named
  | owned live owns finalized => exact finalized.named named

/-- To close a stream asks for nothing that can be refused. -/
theorem Closed.silent {run : Run Reading τ Unit} (closes : Closed engine reading start run) :
    ∀ exchange ∈ run.exchanges, exchange.refusal? = none := by
  cases closes with
  | already | borrowed => exact List.forall_mem_nil _
  | owned live owns finalized => exact finalized.silent

/-- What was raised goes on to be raised where a run has the same requests and the same failure. -/
theorem Raising.carry {first : Run Reading τ α} (raising : Raising sql parameters first)
    {second : Run Reading τ β} (statement : second.state.statement = first.state.statement)
    (exchanges : second.exchanges = first.exchanges)
    (fails : ∀ failure, first.outcome = .error failure → second.outcome = .error failure) :
    Raising sql parameters second where
  named := by
    rw [statement]
    exact raising.named
  raises exchange member cause refused :=
    fails _ (raising.raises exchange (exchanges ▸ member) cause refused)

/-- A run that returned and then closed the stream has had nothing refused. -/
theorem Raising.closed {first : Run Reading τ α} (raising : Raising sql parameters first) {value : α}
    (returns : first.outcome = .ok value) {last : Run Reading τ Unit}
    (closes : Closed engine first.state first.final last) (outcome : Except Failure β) :
    Raising sql parameters
      ⟨outcome, last.state, last.final, first.exchanges ++ last.exchanges⟩ where
  named := closes.named raising.named
  raises := .of_silent
    (List.forall_mem_append.mpr ⟨raising.raises.silent returns, closes.silent⟩)

/-- Where the first run returned, what the second one raises is raised by both together. -/
theorem Raising.append {first : Run Reading τ α} (raising : Raising sql parameters first) {value : α}
    (returns : first.outcome = .ok value) {second : Run Reading τ β}
    (goes : Raising sql parameters second) :
    Raising sql parameters
      ⟨second.outcome, second.state, second.final, first.exchanges ++ second.exchanges⟩ where
  named := goes.named
  raises exchange member cause refused := by
    rcases List.mem_append.mp member with earlier | later
    · cases (raising.raises.silent returns exchange earlier).symm.trans refused
    · exact goes.raises exchange later cause refused

/-- What two runs raise is raised by both together, as the second one starts only where the first one
returned. -/
theorem Raising.follow {first : Run Reading τ α} (raising : Raising sql parameters first)
    {next : α → Reading → τ → Run Reading τ β}
    (goes : ∀ value, first.outcome = .ok value →
      Raising sql parameters (next value first.state first.final)) :
    Raising sql parameters (first.follow next) := by
  rw [Run.follow]
  cases ended : first.outcome with
  | error failure =>
      refine raising.carry rfl rfl fun other fails => ?_
      cases ended.symm.trans fails
      rfl
  | ok value => exact raising.append ended (goes value ended)

/-- A chunk that is refused is raised after the stream was closed. -/
theorem Chunked.raising {run : Run Reading τ Unit} (chunked : Chunked engine database reading start run)
    (named : reading.statement.Named sql parameters) : Raising sql parameters run := by
  cases chunked with
  | failed took fails closes =>
      refine ⟨closes.named (took.named named), fun exchange member cause refused => ?_⟩
      rcases List.mem_append.mp member with asked | closing
      · cases fails.symm.trans (took.raises named exchange asked cause refused)
        rfl
      · cases (closes.silent exchange closing).symm.trans refused
  | received took gives => exact ⟨took.named named, .of_silent ((took.raises named).silent gives)⟩

/-- To look for the next row raises a chunk that is refused. -/
theorem Looked.raising {run : Run Reading τ Unit} (looked : Looked engine database reading start run)
    (named : reading.statement.Named sql parameters) : Raising sql parameters run := by
  cases looked with
  | known settled => exact ⟨named, .of_silent (List.forall_mem_nil _)⟩
  | fetched bare more live chunked => exact chunked.raising named

/-- To ask for the next row raises what is refused on the way to it. -/
theorem Advanced.raising {run : Run Reading τ (Option Row)}
    (advanced : Advanced engine database reading start run)
    (named : reading.statement.Named sql parameters) : Raising sql parameters run := by
  cases advanced with
  | failed looked fails =>
      refine (looked.raising named).carry rfl rfl fun other same => ?_
      cases fails.symm.trans same
      rfl
  | delivered looked finds waits =>
      exact (looked.raising named).carry rfl rfl fun failure fails => by cases finds.symm.trans fails
  | finished looked finds bare closes => exact (looked.raising named).closed finds closes _

/-- A read raises what is refused at one of its rows, and then it asks for no further row. -/
theorem Gathered.raising {count : Nat} {run : Run Reading τ (List Row)}
    (gathered : Gathered engine database count reading start run)
    (named : reading.statement.Named sql parameters) : Raising sql parameters run := by
  induction gathered with
  | enough => exact ⟨named, .of_silent (List.forall_mem_nil _)⟩
  | failed advanced fails =>
      refine (advanced.raising named).carry rfl rfl fun other same => ?_
      cases fails.symm.trans same
      rfl
  | ended advanced gives =>
      exact (advanced.raising named).carry rfl rfl fun failure fails => by cases gives.symm.trans fails
  | @went count reading start run advanced row gives rest others inductionHypothesis =>
      have raising := advanced.raising named
      have later : Raising sql parameters
          ⟨rest.outcome.map (row :: ·), rest.state, rest.final, rest.exchanges⟩ :=
        (inductionHypothesis raising.named).carry rfl rfl fun failure fails => by rw [fails]; rfl
      exact raising.append gives later

/-- Every call raises what is refused in it. -/
theorem perform_raising (engine : Engine τ) (database : Database) (call : Call) (start : τ)
    (named : reading.statement.Named sql parameters) :
    Raising sql parameters ((call.perform database).runOn engine reading start) := by
  cases call with
  | read count => exact (read_gathered engine database reading start count.toNat).raising named
  | next =>
      have advanced := (next_advanced engine database reading start).raising named
      rw [Call.perform, runOn_bind]
      exact advanced.follow fun found _ => ⟨advanced.named, .of_silent (List.forall_mem_nil _)⟩
  | close =>
      have closes := close_closed engine reading start
      rw [Call.perform, runOn_bind]
      have closing : Raising sql parameters (close.runOn engine reading start) :=
        ⟨closes.named named, .of_silent closes.silent⟩
      exact closing.follow fun _ _ => ⟨closing.named, .of_silent (List.forall_mem_nil _)⟩

/-- The statement of a stream stays the same through all calls. -/
theorem plays_named (engine : Engine τ) (database : Database) (calls : List Call) (start : τ)
    (named : reading.statement.Named sql parameters) :
    (plays engine (Call.perform database) calls reading start).state.statement.Named sql
      parameters :=
  plays_keep engine (Call.perform database)
    (fun _ reading _ => reading.statement.Named sql parameters)
    (fun _ _ start call named => (perform_raising engine database call start named).named) calls
    reading start named

end Reading

end Tabular
