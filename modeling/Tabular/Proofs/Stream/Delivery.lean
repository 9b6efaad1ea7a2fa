import Tabular.Proofs.Stream.Raising

/-!
This module tells which rows a stream delivers. These are the rows of its statement, each one once and
in their order, whatever the size of a chunk is. A fetch that is refused is raised once, and then the
stream is at its end.
-/

namespace Tabular

namespace Exchange

/-- These exchanges are an execution or a fetch of a chunk that failed. -/
def isRefusal (exchange : Exchange) : Bool := exchange.refusal?.isSome

end Exchange

open Tabular.Action Exchange

variable {σ τ α : Type}

/-- A run failed at a request that was refused. -/
structure Run.Refused (run : Run σ τ α) : Prop where
  fails : ∃ failure, run.outcome = .error failure
  refused : ∃ exchange ∈ run.exchanges, exchange.isRefusal = true

/-- A cursor gives the rows of its last execution one after another, as far as its requests succeed. -/
structure Serving (engine : Engine τ) (sql : String) (parameters : Value) (rows : List Row)
    (ahead : Cursor → τ → List Row) : Prop where
  executes : ∀ cursor state result next,
    engine.answer (.execute cursor sql (Database.driverParameters parameters)) state =
      (.ok result, next) → ahead cursor next = rows
  fetches : ∀ cursor count state found next, 0 < count →
    engine.answer (.fetchMany cursor count) state = (.ok found, next) →
    found = (ahead cursor state).take count.toNat ∧
      ahead cursor next = (ahead cursor state).drop count.toNat
  fetchesAll : ∀ cursor state found next,
    engine.answer (.fetchAll cursor) state = (.ok found, next) → found = ahead cursor state

namespace Statement

/-- The rows that a statement has yet to give. Before its execution these are all its rows. -/
inductive Left (database : Database) (sql : String) (parameters : Value) (rows : List Row)
    (ahead : Cursor → τ → List Row) : Statement → τ → List Row → Prop where
  | prepared {connection : Connection} (opened : database.connection = some connection) (state : τ) :
      Left database sql parameters rows ahead { sql, parameters } state rows
  | executed {statement : Statement} (live : statement.finalized = false) {cursor : Cursor}
      (holds : statement.cursor = some cursor) (state : τ) :
      Left database sql parameters rows ahead statement state (ahead cursor state)

variable {engine : Engine τ} {database : Database} {sql : String} {parameters : Value}
  {rows left : List Row} {ahead : Cursor → τ → List Row} {statement : Statement} {start : τ}

/-- A statement with rows left is not finalized. -/
theorem Left.live (remain : Left database sql parameters rows ahead statement start left) :
    statement.finalized = false := by
  cases remain with
  | prepared opened => rfl
  | executed live holds => exact live

/-- A statement is executed before its rows are asked for, unless that is refused. -/
theorem Left.reached (laws : Serving engine sql parameters rows ahead)
    (remain : Left database sql parameters rows ahead statement start left)
    {run : Run Statement τ Cursor} (reached : Reached engine database statement start run) :
    run.Refused ∨
      ∃ cursor, run.outcome = .ok cursor ∧ run.state.finalized = false ∧
        run.state.cursor = some cursor ∧ ahead cursor run.final = left := by
  cases reached with
  | held live holds =>
      cases remain with
      | prepared opened => exact nomatch holds
      | executed live same =>
          cases holds.symm.trans same
          exact .inr ⟨_, rfl, live, holds, rfl⟩
  | @executed live bare connection opened cursor before final answer answered =>
      cases remain with
      | executed live holds => exact nomatch bare.symm.trans holds
      | prepared opened =>
          cases answer with
          | error cause => exact .inl ⟨⟨_, rfl⟩, _, List.mem_of_mem_getLast? rfl, rfl⟩
          | ok result =>
              exact .inr ⟨cursor, rfl, rfl, rfl, laws.executes cursor before result final answered⟩
  | finalized ended => exact nomatch ended.symm.trans remain.live
  | unconnected live bare closed =>
      cases remain with
      | prepared opened => exact nomatch closed.symm.trans opened
      | executed live holds => exact nomatch bare.symm.trans holds

/-- A chunk is taken from the rows that are left, unless it is refused. -/
theorem Left.took (laws : Serving engine sql parameters rows ahead)
    (remain : Left database sql parameters rows ahead statement start left) {count : Int}
    (positive : 0 < count) {run : Run Statement τ (List Row)}
    (took : Took engine database count statement start run) :
    run.Refused ∨
      run.outcome = .ok (left.take count.toNat) ∧
        Left database sql parameters rows ahead run.state run.final (left.drop count.toNat) := by
  cases took with
  | refused reached fails =>
      rcases remain.reached laws reached with ⟨-, refused⟩ | ⟨cursor, reaches, -⟩
      · exact .inl ⟨⟨_, rfl⟩, refused⟩
      · exact nomatch fails.symm.trans reaches
  | @answered first reached cursor reaches answer final answers =>
      rcases remain.reached laws reached with ⟨⟨failure, fails⟩, -⟩ | ⟨place, found, live, holds, same⟩
      · exact nomatch fails.symm.trans reaches
      · cases reaches.symm.trans found
        cases answer with
        | error cause =>
            exact .inl ⟨⟨_, rfl⟩, _, List.mem_append_right _ (List.mem_singleton_self _), rfl⟩
        | ok chunk =>
            obtain ⟨taken, rest⟩ := laws.fetches cursor count first.final chunk final positive answers
            rw [same] at taken rest
            refine .inr ⟨congrArg Except.ok taken, ?_⟩
            rw [← rest]
            exact .executed live holds final

/-- All rows at once are the rows that are left. -/
theorem Left.all (laws : Serving engine sql parameters rows ahead)
    (remain : Left database sql parameters rows ahead statement start left) {found : List Row}
    (returns : ((Statement.all database).runOn engine statement start).outcome = .ok found) :
    found = left := by
  have reached := executed_reached engine database statement start
  simp only [Statement.all, fetched, runOn_bind, Run.follow] at returns
  generalize (Statement.executed database).runOn engine statement start = run at reached returns
  rcases remain.reached laws reached with ⟨⟨failure, fails⟩, -⟩ | ⟨cursor, reaches, -, -, same⟩
  · rw [fails] at returns
    cases returns
  · simp only [reaches, runOn_fetchAll, runOn_get, runOn_attached] at returns
    cases answers : engine.answer (.fetchAll cursor) run.final with
    | mk answer final =>
        rw [answers] at returns
        cases answer with
        | error cause => cases returns
        | ok chunk =>
            cases returns
            exact (laws.fetchesAll cursor run.final _ final answers).trans same

end Statement

namespace Reading

open Statement

/-- The rows that calls returned. -/
def delivered (turns : List (Turn Call Reading τ (List Row))) : List Row :=
  turns.flatMap fun turn => turn.run.outcome.toOption.getD []

/-- A call that returns fewer rows than it asks for reports the end. -/
def ReportsEnd (turn : Turn Call Reading τ (List Row)) : Prop :=
  ∃ found, turn.run.outcome = .ok found ∧ found.length < turn.call.wants

/-- How far a stream has come. It reads, or all rows are delivered and it is closed. -/
inductive Progress (database : Database) (sql : String) (parameters : Value) (rows : List Row)
    (ahead : Cursor → τ → List Row) (reading : Reading) (state : τ) (delivered : List Row) : Prop where
  | underway (live : reading.stream.closed = false) {left : List Row}
      (remain : Left database sql parameters rows ahead reading.statement state left)
      (all : delivered ++ (reading.stream.waiting ++ left) = rows)
      (last : reading.stream.endOfData = true → left = [])
  | finished (closed : reading.stream.closed = true) (bare : reading.stream.waiting = [])
      (all : delivered = rows)
      (releases : reading.stream.finalizeStatement = true → reading.statement.finalized = true)

/-- A stream has delivered rows and counted them. -/
structure Delivering (database : Database) (sql : String) (parameters : Value) (rows : List Row)
    (ahead : Cursor → τ → List Row) (owns : Bool) (reading : Reading) (state : τ)
    (delivered : List Row) : Prop where
  positive : 0 < reading.stream.prefetch
  owner : reading.stream.finalizeStatement = owns
  total : reading.stream.totalRows = delivered.length
  progress : Progress database sql parameters rows ahead reading state delivered

variable {engine : Engine τ} {database : Database} {sql : String} {parameters : Value}
  {rows : List Row} {ahead : Cursor → τ → List Row} {reading : Reading} {start : τ}
  {owns : Bool} {done : List Row}

/-- A stream is closed where all rows are delivered. -/
theorem Delivering.closed
    (delivering : Delivering database sql parameters rows ahead owns reading start done)
    (bare : reading.stream.waiting = []) (ended : reading.stream.endOfData = true ∨
      reading.stream.closed = true) {run : Run Reading τ Unit}
    (closes : Closed engine reading start run) :
    Delivering database sql parameters rows ahead owns run.state run.final done ∧
      run.state.stream.closed = true := by
  obtain ⟨positive, owner, total, progress⟩ := delivering
  cases progress with
  | finished closed _ all releases =>
      cases closes with
      | already _ => exact ⟨⟨positive, owner, total, .finished closed bare all releases⟩, closed⟩
      | borrowed live borrows => exact nomatch live.symm.trans closed
      | owned live takes finalized => exact nomatch live.symm.trans closed
  | underway live remain all last =>
      have ended := ended.resolve_right (by simp [live])
      rw [bare, last ended, List.append_nil, List.append_nil] at all
      cases closes with
      | already closed => exact nomatch live.symm.trans closed
      | borrowed _ borrows =>
          refine ⟨⟨positive, owner, total, .finished rfl rfl all fun owns => ?_⟩, rfl⟩
          exact nomatch borrows.symm.trans owns
      | owned _ takes finalized =>
          exact ⟨⟨positive, owner, total, .finished rfl rfl all fun _ => finalized.ends⟩, rfl⟩

/-- Looking for the next row keeps the delivery, unless the driver refuses a request. -/
theorem Delivering.looked (laws : Serving engine sql parameters rows ahead)
    (delivering : Delivering database sql parameters rows ahead owns reading start done)
    {run : Run Reading τ Unit} (looked : Looked engine database reading start run) :
    run.Refused ∨ run.outcome = .ok () ∧
      Delivering database sql parameters rows ahead owns run.state run.final done ∧
      (run.state.stream.waiting = [] →
        run.state.stream.endOfData = true ∨ run.state.stream.closed = true) := by
  cases looked with
  | known settled => exact .inr ⟨rfl, delivering, fun bare => settled.resolve_left (· bare)⟩
  | fetched bare more live chunked =>
      obtain ⟨positive, owner, total, progress⟩ := delivering
      cases progress with
      | finished closed => exact nomatch live.symm.trans closed
      | @underway _ left remain all last =>
          cases chunked with
          | failed took fails closes =>
              rcases remain.took laws positive took with ⟨-, exchange, member, refused⟩ | ⟨gives, -⟩
              · exact .inl ⟨⟨_, rfl⟩, exchange, List.mem_append_left _ member, refused⟩
              · exact nomatch fails.symm.trans gives
          | @received taken took chunk gives =>
              rcases remain.took laws positive took with ⟨⟨failure, fails⟩, -⟩ | ⟨same, rest⟩
              · exact nomatch fails.symm.trans gives
              · cases gives.symm.trans same
                refine .inr ⟨rfl, ⟨positive, owner, total, .underway live rest ?_ ?_⟩, ?_⟩
                · simpa [ReadStream.receive] using all
                · intro ended
                  simp only [ReadStream.receive, more, Bool.false_or, decide_eq_true_eq,
                    List.length_take] at ended
                  exact List.drop_eq_nil_of_le (by omega)
                · intro none
                  simp only [ReadStream.receive, bare, List.nil_append] at none
                  refine .inl ?_
                  simp only [ReadStream.receive, none, Bool.or_eq_true, decide_eq_true_eq]
                  exact .inr positive

/-- Going on delivers the next row, or closes the stream when none is left. -/
theorem Delivering.advanced (laws : Serving engine sql parameters rows ahead)
    (delivering : Delivering database sql parameters rows ahead owns reading start done)
    {run : Run Reading τ (Option Row)} (advanced : Advanced engine database reading start run) :
    run.Refused ∨ ∃ found, run.outcome = .ok found ∧
      Delivering database sql parameters rows ahead owns run.state run.final (done ++ found.toList) ∧
      (found = none → run.state.stream.closed = true) := by
  cases advanced with
  | failed looked fails =>
      rcases delivering.looked laws looked with ⟨-, refused⟩ | ⟨finds, -⟩
      · exact .inl ⟨⟨_, rfl⟩, refused⟩
      · cases fails.symm.trans finds
  | @delivered first looked finds row rest waits =>
      rcases delivering.looked laws looked with ⟨⟨_, fails⟩, -⟩ |
        ⟨-, ⟨positive, owner, total, progress⟩, -⟩
      · cases fails.symm.trans finds
      · refine .inr ⟨some row, rfl, ⟨positive, owner, ?_, ?_⟩, fun none => by cases none⟩
        · simp [ReadStream.deliver, total]
        · cases progress with
          | finished closed bare all => cases waits.symm.trans bare
          | underway live remain all last =>
              refine .underway live remain ?_ last
              rw [waits] at all
              simpa [ReadStream.deliver] using all
  | finished looked finds bare closes =>
      rcases delivering.looked laws looked with ⟨⟨_, fails⟩, -⟩ | ⟨-, still, settled⟩
      · cases fails.symm.trans finds
      · obtain ⟨after, closed⟩ := still.closed bare (settled bare) closes
        exact .inr ⟨none, rfl, (List.append_nil done).symm ▸ after, fun _ => closed⟩

/-- What comes of a read: the next rows, and fewer only at the end. -/
theorem Delivering.gathered (laws : Serving engine sql parameters rows ahead) {count : Nat}
    (delivering : Delivering database sql parameters rows ahead owns reading start done)
    {run : Run Reading τ (List Row)} (gathered : Gathered engine database count reading start run) :
    run.Refused ∨ ∃ found, run.outcome = .ok found ∧
      found.length ≤ count ∧
      Delivering database sql parameters rows ahead owns run.state run.final (done ++ found) ∧
      (found.length < count → run.state.stream.closed = true) := by
  induction gathered generalizing done with
  | enough =>
      exact .inr ⟨[], rfl, Nat.le_refl 0, (List.append_nil done).symm ▸ delivering, nofun⟩
  | failed advanced fails =>
      rcases delivering.advanced laws advanced with ⟨-, refused⟩ | ⟨found, gives, -⟩
      · exact .inl ⟨⟨_, rfl⟩, refused⟩
      · cases fails.symm.trans gives
  -- No row was left, so that the read ends early with the stream closed.
  | ended advanced gives =>
      rcases delivering.advanced laws advanced with ⟨⟨failure, fails⟩, -⟩ | ⟨found, same, still, closes⟩
      · cases gives.symm.trans fails
      · cases gives.symm.trans same
        exact .inr ⟨[], rfl, Nat.zero_le _, still, fun _ => closes rfl⟩
  | @went count reading start first advanced row gives rest others inductionHypothesis =>
      rcases delivering.advanced laws advanced with ⟨⟨failure, fails⟩, -⟩ | ⟨found, same, still, -⟩
      · cases gives.symm.trans fails
      cases gives.symm.trans same
      rcases inductionHypothesis still with ⟨⟨failure, fails⟩, exchange, member, refused⟩ |
        ⟨found, returns, most, ends, short⟩
      · exact .inl ⟨⟨failure, by rw [fails]; rfl⟩, exchange, List.mem_append_right _ member, refused⟩
      · refine .inr ⟨row :: found, by rw [returns]; rfl, Nat.succ_le_succ most, ?_, fun fewer =>
          short (Nat.lt_of_succ_lt_succ fewer)⟩
        simpa using ends

/-- What comes of a call other than a close. -/
theorem Delivering.performed (laws : Serving engine sql parameters rows ahead)
    (delivering : Delivering database sql parameters rows ahead owns reading start done) {call : Call}
    (goesOn : call ≠ .close) {run : Run Reading τ (List Row)}
    (runs : (call.perform database).runOn engine reading start = run) :
    run.Refused ∨ ∃ found, run.outcome = .ok found ∧ found.length ≤ call.wants ∧
      Delivering database sql parameters rows ahead owns run.state run.final (done ++ found) ∧
      (found.length < call.wants → run.state.stream.closed = true) := by
  cases call with
  | close => exact absurd rfl goesOn
  | read count =>
      subst runs
      exact delivering.gathered laws (read_gathered engine database reading start count.toNat)
  | next =>
      rw [Call.runOn_next] at runs
      subst runs
      have advanced := next_advanced engine database reading start
      generalize (Reading.next database).runOn engine reading start = first at advanced
      rcases delivering.advanced laws advanced with ⟨⟨failure, fails⟩, refused⟩ |
        ⟨found, gives, still, closes⟩
      · exact .inl ⟨⟨failure, by simp only [fails, Except.map]⟩, refused⟩
      · refine .inr ⟨found.toList, by simp only [gives, Except.map], ?_, still, fun fewer => ?_⟩
        · cases found <;> simp [Call.wants]
        · cases found with
          | none => exact closes rfl
          | some row => exact nomatch (Nat.lt_irrefl 1 fewer : False)

/-- A call that asks for no rows does nothing. -/
theorem perform_idle (engine : Engine τ) (database : Database) (reading : Reading) (start : τ)
    {call : Call} (goesOn : call ≠ .close) (idle : call.wants = 0) :
    (call.perform database).runOn engine reading start = ⟨.ok [], reading, start, []⟩ := by
  cases call with
  | next => exact nomatch idle
  | close => exact absurd rfl goesOn
  | read count =>
      rw [Call.perform, show count.toNat = 0 from idle]
      rfl

/-- The calls that were made have returned the rows of the statement from the first one on. -/
structure Going (database : Database) (sql : String) (parameters : Value) (rows : List Row)
    (ahead : Cursor → τ → List Row) (owns : Bool) (turns : List (Turn Call Reading τ (List Row)))
    (reading : Reading) (state : τ) : Prop where
  returns : ∀ turn ∈ turns, ∃ found, turn.run.outcome = .ok found ∧ found.length ≤ turn.call.wants
  idle : ∀ turn ∈ turns, turn.call.wants = 0 → turn.run = ⟨.ok [], turn.state, turn.start, []⟩
  delivering : Delivering database sql parameters rows ahead owns reading state (delivered turns)
  closes : (∃ turn ∈ turns, ReportsEnd turn) → reading.stream.closed = true

/-- A closed stream stays as it is. -/
theorem Delivering.perform_closed
    (delivering : Delivering database sql parameters rows ahead owns reading start done)
    (closed : reading.stream.closed = true) (call : Call) :
    (call.perform database).runOn engine reading start = ⟨.ok [], reading, start, []⟩ := by
  cases delivering.progress with
  | underway live => exact nomatch live.symm.trans closed
  | finished closed bare => exact perform_shut engine database start closed bare call

/-- A call that does not close the stream keeps it going. -/
theorem Going.next (laws : Serving engine sql parameters rows ahead)
    {turns : List (Turn Call Reading τ (List Row))}
    (going : Going database sql parameters rows ahead owns turns reading start) {call : Call}
    (goesOn : call ≠ .close) {run : Run Reading τ (List Row)}
    (runs : (call.perform database).runOn engine reading start = run)
    (fine : ∀ exchange ∈ run.exchanges, exchange.isRefusal = false) :
    Going database sql parameters rows ahead owns (turns ++ [⟨call, reading, start, run⟩]) run.state
      run.final := by
  obtain ⟨returns, idle, delivering, closes⟩ := going
  rcases delivering.performed laws goesOn runs with ⟨-, exchange, member, refused⟩ |
    ⟨found, gives, most, still, short⟩
  · exact nomatch (fine exchange member).symm.trans refused
  · refine ⟨?_, ?_, ?_, ?_⟩
    · simp only [List.forall_mem_append, List.forall_mem_singleton]
      exact ⟨returns, found, gives, most⟩
    · simp only [List.forall_mem_append, List.forall_mem_singleton]
      exact ⟨idle, fun none => runs.symm.trans (perform_idle engine database reading start goesOn none)⟩
    · rw [delivered, List.flatMap_append, List.flatMap_singleton, gives]
      exact still
    · rintro ⟨turn, member, ends⟩
      rcases List.mem_append.mp member with earlier | last
      · have same := runs.symm.trans (delivering.perform_closed (closes ⟨turn, earlier, ends⟩) call)
        rw [same]
        exact closes ⟨turn, earlier, ends⟩
      · cases List.mem_singleton.mp last
        obtain ⟨others, outcome, fewer⟩ := ends
        cases gives.symm.trans outcome
        exact short fewer

/-- Calls that do not close the stream keep it going, where the driver refuses nothing. -/
theorem plays_going (laws : Serving engine sql parameters rows ahead) {prefetch : Int}
    {stream : ReadStream} (made : ReadStream.make prefetch owns = .ok stream) {statement : Statement}
    (remain : statement.Left database sql parameters rows ahead start rows) {calls : List Call}
    (goesOn : ∀ call ∈ calls, call ≠ .close) {played}
    (plays : Action.plays engine (Call.perform database) calls ⟨statement, stream⟩ start = played)
    (fine : ∀ exchange ∈ played.exchanges, exchange.isRefusal = false) :
    Going database sql parameters rows ahead owns played.turns played.state played.final := by
  subst plays
  have begins : Going database sql parameters rows ahead owns [] ⟨statement, stream⟩ start := by
    obtain ⟨positive, rfl⟩ := ReadStream.make_eq_ok.mp made
    exact ⟨List.forall_mem_nil _, List.forall_mem_nil _,
      ⟨positive, rfl, rfl, .underway rfl remain rfl fun done => by cases done⟩, by simp⟩
  have kept := plays_keep engine (Call.perform database)
    (fun turns reading state => (∀ turn ∈ turns, turn.call ≠ .close) →
      (∀ exchange ∈ Turn.exchanges turns, exchange.isRefusal = false) →
      Going database sql parameters rows ahead owns turns reading state)
    (fun turns reading start call holds goesOn fine => ?_) calls _ start fun _ _ => begins
  · refine kept (fun turn member => goesOn turn.call ?_) fine
    rw [← plays_calls engine (Call.perform database) calls ⟨statement, stream⟩ start]
    exact List.mem_map_of_mem member
  · rw [Turn.exchanges_append, Turn.exchanges_single, List.forall_mem_append] at fine
    rw [List.forall_mem_append, List.forall_mem_singleton] at goesOn
    exact (holds goesOn.1 fine.1).next laws goesOn.2 rfl fine.2

/-- The calls that were made have returned the rows of the statement from the first one on, and all of
them where the end was reported. -/
structure Delivered (rows : List Row) (owns : Bool) (played : Played Call Reading τ (List Row)) :
    Prop where
  returns : ∀ turn ∈ played.turns,
    ∃ found, turn.run.outcome = .ok found ∧ found.length ≤ turn.call.wants
  idle : ∀ turn ∈ played.turns, turn.call.wants = 0 →
    turn.run = ⟨.ok [], turn.state, turn.start, []⟩
  inOrder : delivered played.turns <+: rows
  total : played.state.stream.totalRows = (delivered played.turns).length
  ends : (∃ turn ∈ played.turns, ReportsEnd turn) → delivered played.turns = rows ∧
    played.state.stream.closed = true ∧ (owns = true → played.state.statement.finalized = true)

/-- A stream that goes has delivered its rows in order. -/
theorem Going.delivered {played : Played Call Reading τ (List Row)}
    (going : Going database sql parameters rows ahead owns played.turns played.state played.final) :
    Delivered rows owns played := by
  obtain ⟨returns, idle, ⟨positive, owner, total, progress⟩, closes⟩ := going
  refine ⟨returns, idle, ?_, total, fun ends => ?_⟩
  · cases progress with
    | underway live remain all => exact ⟨_, all⟩
    | finished closed bare all => exact all ▸ List.prefix_rfl
  · cases progress with
    | underway live => exact nomatch live.symm.trans (closes ends)
    | finished closed bare all releases =>
        exact ⟨all, closed, fun owned => releases (owner.trans owned)⟩

/-- What a call leaves to those that follow it. The call in which an execution or a fetch is refused
raises the cause, attached to the statement. A failure closes the stream, as a close does, and then
nothing is asked for any more. -/
structure Leaves (statement : Statement) (played : Played Call Reading τ (List Row)) (call : Call)
    (run : Run Reading τ (List Row)) (others : Played Call Reading τ (List Row)) : Prop where
  raises : ∀ exchange ∈ run.exchanges, ∀ cause, exchange.refusal? = some cause →
    run.outcome = .error ((Failure.outside cause).attach statement.sql statement.parameters)
  fails : ∀ failure, run.outcome = .error failure → run.state.stream.closed = true ∧
    run.state.stream.totalRows = fetchedRows (played.exchanges ++ run.exchanges)
  closes : call = .close → run.state.stream.closed = true
  silent : run.state.stream.closed = true →
    ∀ turn ∈ others.turns, turn.run = ⟨.ok [], run.state, run.final, []⟩

/-- A stream delivers each row of its statement once and in order, as far as no request is refused. A
refused request is raised by its call. The stream has then counted the rows of all chunks, and it is at
its end. -/
theorem calls_deliver (engine : Engine τ) (database : Database) (statement : Statement)
    {prefetch : Int} {owns : Bool} {stream : ReadStream}
    (made : ReadStream.make prefetch owns = .ok stream) (start : τ) (calls : List Call) {played}
    (plays : Action.plays engine (Call.perform database) calls ⟨statement, stream⟩ start = played) :
    (∀ rows ahead, Serving engine statement.sql statement.parameters rows ahead →
      statement.Left database statement.sql statement.parameters rows ahead start rows →
      (∀ call ∈ calls, call ≠ .close) →
      (∀ exchange ∈ played.exchanges, exchange.isRefusal = false) →
      Delivered rows owns played ∧ ∀ found,
        ((Statement.all database).runOn engine statement start).outcome = .ok found → found = rows) ∧
    ∀ call rest run others,
      (call.perform database).runOn engine played.state played.final = run →
      Action.plays engine (Call.perform database) rest run.state run.final = others →
      Leaves statement played call run others := by
  refine ⟨fun rows ahead laws remain goesOn fine => ⟨?_, fun found => remain.all laws⟩,
    fun call rest run others runs next => ?_⟩
  · exact (plays_going laws made remain goesOn plays fine).delivered
  · subst next
    have counted := plays_counted engine database made statement start calls plays
    have raising : Raising statement.sql statement.parameters run := by
      subst plays runs
      exact perform_raising engine database call _
        (plays_named engine database calls start ⟨rfl, rfl⟩)
    rcases counted.performed call runs with ⟨-, closed, bare, total⟩ | ⟨⟨found, returns⟩, still⟩
    · exact ⟨raising.raises, fun _ _ => ⟨closed, total⟩, fun _ => closed, fun _ =>
        plays_shut engine database run.final closed bare rest⟩
    · refine ⟨raising.raises, fun failure fails => (nomatch returns.symm.trans fails), fun ends => ?_,
        fun closed => plays_shut engine database run.final closed (still.shut closed) rest⟩
      subst ends runs
      exact perform_close_closed counted

end Reading

/-! ## An engine with the rows of one statement -/

namespace Shelf

/-- Every execution puts the rows in front of the cursor. -/
def engine (rows : List Row) : Engine (List Row) where
  answer
    | .connect _, ahead => (.ok ⟨0⟩, ahead)
    | .disconnect _, ahead => ((), ahead)
    | .inTransaction _, ahead => (false, ahead)
    | .script _ _, ahead => (.ok (), ahead)
    | .cursor connection, ahead => (⟨connection, 0⟩, ahead)
    | .execute _ _ _, _ => (.ok ⟨none, -1⟩, rows)
    | .fetchOne _, ahead => (.ok ahead.head?, ahead.tail)
    | .fetchMany _ count, ahead => (.ok (ahead.take count.toNat), ahead.drop count.toNat)
    | .fetchAll _, ahead => (.ok ahead, [])
    | .rows _, ahead => ((ahead, none), ahead)
    | .advance _ count, ahead => ((), ahead.drop count)
    | .remaining _, ahead => (ahead.length, ahead)
    | .closeCursor _, ahead => ((), ahead)
    | .log _, ahead => ((), ahead)
    | .threshold _, ahead => ((), ahead)
    | .time, ahead => (.zero false, ahead)

/-- The engine with some rows serves them to one cursor. -/
theorem serving (rows : List Row) (sql : String) (parameters : Value) :
    Serving (engine rows) sql parameters rows fun _ ahead => ahead where
  executes _ _ _ _ answered := (congrArg Prod.snd answered).symm
  fetches _ _ _ _ _ _ answered := by
    cases answered
    exact ⟨rfl, rfl⟩
  fetchesAll _ _ _ _ answered := by
    cases answered
    rfl

end Shelf

namespace Reading

def shelfRows : List Row := [1, 2, 3, 4].map fun number => [(.text "n", .int number)]

def shelfDatabase : Database := { path := "shelf.db", settings := {}, connection := some ⟨0⟩ }

def shelfPlayed : Played Call Reading (List Row) (List Row) :=
  plays (Shelf.engine shelfRows) (Call.perform shelfDatabase) [.next, .read 5]
    ⟨{ sql := "SELECT n FROM shelf" }, { prefetch := 2 }⟩ []

/-- The second of two full chunks is followed by an empty one. -/
theorem calls_deliver_shelf :
    ReadStream.make 2 true = .ok { prefetch := 2 } ∧ shelfPlayed.outcomes.length = 2 ∧
      delivered shelfPlayed.turns = shelfRows ∧ shelfPlayed.state.stream.closed = true ∧
      shelfPlayed.state.statement.finalized = true := by
  have laws := Shelf.serving shelfRows "SELECT n FROM shelf" .null
  have fine : ∀ exchange ∈ shelfPlayed.exchanges, exchange.isRefusal = false := by
    have none : shelfPlayed.exchanges.any isRefusal = false := rfl
    simpa using none
  have made : ReadStream.make 2 true = .ok { prefetch := 2 } := rfl
  have going := (calls_deliver (Shelf.engine shelfRows) shelfDatabase { sql := "SELECT n FROM shelf" }
    made [] [.next, .read 5] rfl).1 shelfRows (fun _ ahead => ahead) laws (.prepared rfl []) (by simp)
    fine
  obtain ⟨all, closed, finalized⟩ := going.1.ends
    ⟨_, List.mem_of_mem_getLast? rfl, _, rfl, by decide⟩
  exact ⟨made, rfl, all, closed, finalized rfl⟩

end Reading

end Tabular
