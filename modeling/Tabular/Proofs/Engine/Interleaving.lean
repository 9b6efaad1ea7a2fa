import Mathlib.Logic.Function.Basic
import Tabular.Proofs.Engine.Run

/-!
This module lets the programs of several clients take turns against one engine. A program is safe when
each of its requests is, whatever the others did before it. Safe programs keep what they promise in
every order of turns, and each of them ends after a bounded number of its own turns.
-/

namespace Tabular

variable {ι τ σ ρ α β : Type}

/-- What holds of every state, what a client relies on while the others are at work, and what it
guarantees to the others. -/
structure Protocol (ι τ : Type) where
  invariant : τ → Prop
  rely : ι → τ → τ → Prop
  guarantee : ι → τ → τ → Prop
  stays : ∀ index state, rely index state state
  chains : ∀ index first second third, rely index first second → rely index second third →
    rely index first third
  others : ∀ index other first second, other ≠ index → guarantee other first second →
    rely index first second

/-- What holds stays so while any client is at work. -/
def Protocol.Stable (protocol : Protocol ι τ) (holds : τ → Prop) : Prop :=
  ∀ index first second, protocol.rely index first second ∨ protocol.guarantee index first second →
    holds first → holds second

/-! ## Safe programs -/

/-- A program of a client is safe after a state when every request keeps the invariant and the
guarantee in all states that the others can lead to, and when the program ends after some steps with
what it promises. -/
inductive Program.Safe (engine : Engine τ) (protocol : Protocol ι τ) (index : ι)
    (post : α → τ → Prop) : Program α → Nat → τ → Prop where
  | done {result : α} {steps : Nat} {state : τ} (holds : post result state) :
      Safe engine protocol index post (.done result) steps state
  | ask {request : Request} {next : request.Answer → Program α} {steps : Nat} {state : τ}
      (keeps : ∀ later, protocol.rely index state later → protocol.invariant later →
        protocol.invariant (engine.answer request later).2 ∧
          protocol.guarantee index later (engine.answer request later).2)
      (goesOn : ∀ later, protocol.rely index state later → protocol.invariant later →
        Safe engine protocol index post (next (engine.answer request later).1) steps
          (engine.answer request later).2) :
      Safe engine protocol index post (.ask request next) (steps + 1) state

namespace Program.Safe

variable {engine : Engine τ} {protocol : Protocol ι τ} {index : ι} {post : α → τ → Prop}
  {program : Program α} {steps : Nat} {state : τ}

/-- The others do not make a program unsafe. -/
theorem later (safe : program.Safe engine protocol index post steps state)
    (stable : ∀ result, protocol.Stable (post result)) {after : τ}
    (rely : protocol.rely index state after) :
    program.Safe engine protocol index post steps after := by
  cases safe with
  | done holds => exact .done (stable _ index state after (.inl rely) holds)
  | ask keeps goesOn =>
      exact .ask (fun other more => keeps other (protocol.chains index _ _ _ rely more))
        (fun other more => goesOn other (protocol.chains index _ _ _ rely more))

theorem more (safe : program.Safe engine protocol index post steps state) {others : Nat}
    (enough : steps ≤ others) : program.Safe engine protocol index post others state := by
  induction safe generalizing others with
  | done holds => exact .done holds
  | ask keeps goesOn inductionHypothesis =>
      obtain ⟨rest, rfl⟩ := Nat.exists_eq_add_of_lt enough
      refine .ask keeps fun later rely invariant => ?_
      exact inductionHypothesis later rely invariant (Nat.le_add_right _ _)

theorem imp {last : α → τ → Prop} (safe : program.Safe engine protocol index post steps state)
    (weaker : ∀ result later, post result later → last result later) :
    program.Safe engine protocol index last steps state := by
  induction safe with
  | done holds => exact .done (weaker _ _ holds)
  | ask keeps goesOn inductionHypothesis => exact .ask keeps inductionHypothesis

/-- Safe programs one after the other are a safe program. -/
theorem bind {next : α → Program β} {last : β → τ → Prop} {rest : Nat}
    (safe : program.Safe engine protocol index post steps state) (invariant : protocol.invariant state)
    (follows : ∀ result later, protocol.invariant later → post result later →
      (next result).Safe engine protocol index last rest later) :
    (program.bind next).Safe engine protocol index last (rest + steps) state := by
  induction safe with
  | done holds => exact (follows _ _ invariant holds).more (Nat.le_add_right _ _)
  | ask keeps goesOn inductionHypothesis =>
      exact .ask keeps fun later rely valid =>
        inductionHypothesis later rely valid (keeps later rely valid).1

end Program.Safe

/-! ## Safe actions -/

/-- An action is safe when its program is, from whatever state it carries along. -/
def Action.Safe (engine : Engine τ) (protocol : Protocol ι τ) (index : ι) (action : Action σ α)
    (post : Except Failure α → τ → Prop) (steps : Nat) (start : τ) : Prop :=
  ∀ state, (action.start state).Safe engine protocol index (fun ended => post ended.1) steps start

/-- This is promised by actions that do not fail. -/
def Action.Returns (holds : α → τ → Prop) : Except Failure α → τ → Prop
  | .ok value, state => holds value state
  | .error _, _ => False

namespace Action.Safe

variable {engine : Engine τ} {protocol : Protocol ι τ} {index : ι} {start : τ}

theorem resume {post : Except Failure α → τ → Prop} {outcome : Except Failure α}
    (holds : post outcome start) :
    (Action.resume outcome : Action σ α).Safe engine protocol index post 0 start :=
  fun _ => .done holds

theorem ask {request : Request} {post : Except Failure request.Answer → τ → Prop}
    (keeps : ∀ later, protocol.rely index start later → protocol.invariant later →
      protocol.invariant (engine.answer request later).2 ∧
        protocol.guarantee index later (engine.answer request later).2 ∧
        post (.ok (engine.answer request later).1) (engine.answer request later).2) :
    (Action.ask request : Action σ _).Safe engine protocol index post 1 start :=
  fun _ => .ask (fun later rely invariant =>
    ⟨(keeps later rely invariant).1, (keeps later rely invariant).2.1⟩)
    fun later rely invariant => .done (keeps later rely invariant).2.2

theorem more {action : Action σ α} {post : Except Failure α → τ → Prop} {steps others : Nat}
    (safe : action.Safe engine protocol index post steps start) (enough : steps ≤ others) :
    action.Safe engine protocol index post others start :=
  fun state => (safe state).more enough

theorem imp {action : Action σ α} {post last : Except Failure α → τ → Prop} {steps : Nat}
    (safe : action.Safe engine protocol index post steps start)
    (weaker : ∀ outcome later, post outcome later → last outcome later) :
    action.Safe engine protocol index last steps start :=
  fun state => (safe state).imp fun ended later => weaker ended.1 later

theorem bind {action : Action σ α} {next : α → Action σ β} {post : Except Failure α → τ → Prop}
    {last : Except Failure β → τ → Prop} {steps rest : Nat}
    (safe : action.Safe engine protocol index post steps start)
    (invariant : protocol.invariant start)
    (follows : ∀ value later, protocol.invariant later → post (.ok value) later →
      (next value).Safe engine protocol index last rest later)
    (fails : ∀ failure later, post (.error failure) later → last (.error failure) later) :
    (action >>= next).Safe engine protocol index last (rest + steps) start := by
  intro state
  rw [start_bind]
  refine (safe state).bind invariant fun ended later valid holds => ?_
  obtain ⟨outcome, state⟩ := ended
  cases outcome with
  | ok value => exact follows value later valid holds state
  | error failure => exact .done (fails failure later holds)

/-- Where the first action does not fail, the second one goes on. -/
theorem follow {action : Action σ α} {next : α → Action σ β} {holds : α → τ → Prop}
    {last : Except Failure β → τ → Prop} {steps rest : Nat}
    (safe : action.Safe engine protocol index (Returns holds) steps start)
    (invariant : protocol.invariant start)
    (follows : ∀ value later, protocol.invariant later → holds value later →
      (next value).Safe engine protocol index last rest later) :
    (action >>= next).Safe engine protocol index last (rest + steps) start :=
  safe.bind invariant follows nofun

/-- An attempt does not fail. -/
theorem attempt {action : Action σ α} {post : Except Failure α → τ → Prop}
    {last : Except Failure (Except Failure α) → τ → Prop} {steps : Nat}
    (safe : action.Safe engine protocol index post steps start)
    (invariant : protocol.invariant start)
    (ends : ∀ outcome later, post outcome later → last (.ok outcome) later) :
    (Action.attempt action).Safe engine protocol index last steps start := by
  intro state
  rw [start_attempt, ← Nat.zero_add steps]
  exact (safe state).bind invariant fun ended later _ holds => .done (ends ended.1 later holds)

end Action.Safe

/-! ## Clients -/

/-- A client with its calls, of which the first one is at work, and with what came of the finished
ones. Each call has a label. -/
structure Client (ρ α : Type) where
  calls : List (ρ × Program α)
  finished : List (ρ × α) := []

namespace Client

/-- This function lets the first call ask one request, or finishes it. -/
def turn (engine : Engine τ) (client : Client ρ α) (state : τ) : Client ρ α × τ :=
  match client.calls with
  | [] => (client, state)
  | (label, .done result) :: rest =>
      ({ calls := rest, finished := client.finished ++ [(label, result)] }, state)
  | (label, .ask request next) :: rest =>
      let (answer, later) := engine.answer request state
      ({ client with calls := (label, next answer) :: rest }, later)

/-- The labels of all calls in their order. -/
def labels (client : Client ρ α) : List ρ :=
  client.finished.map Prod.fst ++ client.calls.map Prod.fst

theorem turn_labels (engine : Engine τ) (client : Client ρ α) (state : τ) :
    (client.turn engine state).1.labels = client.labels := by
  obtain ⟨calls, finished⟩ := client
  match calls with
  | [] => rfl
  | (label, .done result) :: rest => simp [turn, labels]
  | (label, .ask request next) :: rest => rfl

/-- The finished calls of a client keep their promises, and the others are safe. Some turns are enough
to finish them. -/
structure Good (engine : Engine τ) (protocol : Protocol ι τ) (post : ρ → α → τ → Prop) (steps : Nat)
    (index : ι) (turns : Nat) (client : Client ρ α) (state : τ) : Prop where
  finished : ∀ call ∈ client.finished, post call.1 call.2 state
  first : ∀ call rest, client.calls = call :: rest → ∃ left,
    call.2.Safe engine protocol index (post call.1) left state ∧
      left + 1 + rest.length * (steps + 1) ≤ turns
  waiting : ∀ call ∈ client.calls.tail, ∀ later, protocol.invariant later →
    call.2.Safe engine protocol index (post call.1) steps later

variable {engine : Engine τ} {protocol : Protocol ι τ} {post : ρ → α → τ → Prop} {steps : Nat}
  {index : ι} {turns : Nat} {client : Client ρ α} {state : τ}

/-- A client is good at first when each of its calls is safe. -/
theorem Good.start {calls : List (ρ × Program α)} (invariant : protocol.invariant state)
    (safe : ∀ call ∈ calls, ∀ later, protocol.invariant later →
      call.2.Safe engine protocol index (post call.1) steps later) :
    Good engine protocol post steps index (calls.length * (steps + 1)) { calls } state where
  finished := nofun
  first call rest whole := by
    obtain rfl : calls = call :: rest := whole
    refine ⟨steps, safe call List.mem_cons_self state invariant, ?_⟩
    rw [List.length_cons, Nat.add_one_mul]
    omega
  waiting call member := safe call (List.mem_of_mem_tail member)

variable (stable : ∀ label result, protocol.Stable (post label result))

include stable

/-- The others do no harm to a client. -/
theorem Good.later (good : client.Good engine protocol post steps index turns state) {after : τ}
    (rely : protocol.rely index state after) :
    client.Good engine protocol post steps index turns after where
  finished call member := stable _ _ index state after (.inl rely) (good.finished call member)
  first call rest calls := by
    obtain ⟨left, safe, enough⟩ := good.first call rest calls
    exact ⟨left, safe.later (stable call.1) rely, enough⟩
  waiting := good.waiting

/-- A turn keeps what a client promises to itself and to the others. -/
theorem Good.turn (good : client.Good engine protocol post steps index turns state)
    (invariant : protocol.invariant state) :
    (client.turn engine state).1.Good engine protocol post steps index (turns - 1)
        (client.turn engine state).2 ∧
      protocol.invariant (client.turn engine state).2 ∧
      ((client.turn engine state).2 = state ∨
        protocol.guarantee index state (client.turn engine state).2) := by
  obtain ⟨calls, finished⟩ := client
  match calls with
  | [] => exact ⟨⟨good.finished, nofun, nofun⟩, invariant, .inl rfl⟩
  | (label, .done result) :: rest =>
      obtain ⟨left, safe, enough⟩ := good.first _ _ rfl
      cases safe with
      | done holds =>
          refine ⟨⟨?_, ?_, ?_⟩, invariant, .inl rfl⟩
          · exact List.forall_mem_append.mpr ⟨good.finished, List.forall_mem_singleton.mpr holds⟩
          · rintro call others rfl
            refine ⟨steps, good.waiting call List.mem_cons_self state invariant, ?_⟩
            rw [List.length_cons, Nat.add_one_mul] at enough
            omega
          · exact fun call member => good.waiting call (List.mem_of_mem_tail member)
  | (label, .ask request next) :: rest =>
      obtain ⟨left, safe, enough⟩ := good.first _ _ rfl
      cases safe with
      | @ask _ _ left _ keeps goesOn =>
          have stays := protocol.stays index state
          obtain ⟨valid, guarantee⟩ := keeps state stays invariant
          refine ⟨⟨?_, ?_, good.waiting⟩, valid, .inr guarantee⟩
          · exact fun call member =>
              stable _ _ index state _ (.inr guarantee) (good.finished call member)
          · intro call others calls
            obtain ⟨rfl, rfl⟩ := List.cons.inj calls
            exact ⟨left, goesOn state stays invariant, by omega⟩

end Client

/-! ## Orders of turns -/

/-- The clients and the engine at which they work. -/
structure World (ι ρ α τ : Type) where
  clients : ι → Client ρ α
  state : τ

namespace World

variable [DecidableEq ι]

/-- This function gives one turn to a client. -/
def turn (engine : Engine τ) (world : World ι ρ α τ) (index : ι) : World ι ρ α τ :=
  let done := (world.clients index).turn engine world.state
  ⟨Function.update world.clients index done.1, done.2⟩

theorem turn_same (engine : Engine τ) (world : World ι ρ α τ) (index : ι) :
    (world.turn engine index).clients index =
      ((world.clients index).turn engine world.state).1 :=
  Function.update_self ..

theorem turn_other (engine : Engine τ) (world : World ι ρ α τ) {index other : ι}
    (differ : other ≠ index) : (world.turn engine index).clients other = world.clients other :=
  Function.update_of_ne differ ..

/-- This function gives turns to clients in an order. -/
def run (engine : Engine τ) (world : World ι ρ α τ) (order : List ι) : World ι ρ α τ :=
  order.foldl (turn engine) world

theorem run_labels (engine : Engine τ) (world : World ι ρ α τ) (order : List ι) (index : ι) :
    ((world.run engine order).clients index).labels = (world.clients index).labels := by
  induction order generalizing world with
  | nil => rfl
  | cons first rest inductionHypothesis =>
      refine (inductionHypothesis (world.turn engine first)).trans ?_
      by_cases same : index = first
      · subst same
        rw [turn_same]
        exact Client.turn_labels ..
      · rw [turn_other engine world same]

/-- All clients are good, and some turns are enough for each. -/
structure Good (engine : Engine τ) (protocol : Protocol ι τ) (post : ρ → α → τ → Prop) (steps : Nat)
    (turns : ι → Nat) (world : World ι ρ α τ) : Prop where
  invariant : protocol.invariant world.state
  clients : ∀ index, (world.clients index).Good engine protocol post steps index (turns index)
    world.state

variable {engine : Engine τ} {protocol : Protocol ι τ} {post : ρ → α → τ → Prop} {steps : Nat}
  {turns : ι → Nat} {world : World ι ρ α τ}
  (stable : ∀ label result, protocol.Stable (post label result))

include stable

theorem Good.turn (good : world.Good engine protocol post steps turns) (index : ι) :
    (world.turn engine index).Good engine protocol post steps
      (Function.update turns index (turns index - 1)) := by
  obtain ⟨own, valid, moves⟩ := (good.clients index).turn stable good.invariant
  refine ⟨valid, fun other => ?_⟩
  by_cases same : other = index
  · subst same
    rw [turn_same, Function.update_self]
    exact own
  · rw [turn_other engine world same, Function.update_of_ne same]
    refine (good.clients other).later stable ?_
    rcases moves with unmoved | guarantee
    · exact unmoved.symm ▸ protocol.stays other world.state
    · exact protocol.others other index _ _ (Ne.symm same) guarantee

/-- Clients stay good in every order of turns. -/
theorem Good.run (good : world.Good engine protocol post steps turns) (order : List ι) :
    (world.run engine order).Good engine protocol post steps
      fun index => turns index - order.count index := by
  induction order generalizing world turns with
  | nil => exact good
  | cons first rest inductionHypothesis =>
      have later := inductionHypothesis (good.turn stable first)
      refine ⟨later.invariant, fun index => ?_⟩
      have client := later.clients index
      rw [List.count_cons]
      by_cases same : index = first
      · subst same
        rw [Function.update_self] at client
        rw [beq_self_eq_true, if_pos rfl, Nat.add_comm, Nat.sub_add_eq]
        exact client
      · rw [Function.update_of_ne same] at client
        rw [if_neg (by simpa using Ne.symm same)]
        exact client

omit stable [DecidableEq ι] in
/-- A client that has had enough turns is finished. -/
theorem Good.ended (good : world.Good engine protocol post steps turns) {index : ι}
    (enough : turns index = 0) : (world.clients index).calls = [] := by
  cases calls : (world.clients index).calls with
  | nil => rfl
  | cons call rest =>
      obtain ⟨left, -, few⟩ := (good.clients index).first call rest calls
      omega

end World

end Tabular
