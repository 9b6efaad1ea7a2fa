import Tabular.Proofs.Engine.Run
import Tabular.Proofs.Value.Names
import Tabular.Proofs.Value.Sameness
import Tabular.Stream.Write

/-!
This module tells which rows a stream accepts and with which parameters. The first row that names
columns decides on them, and the other rows have the same columns in any order.
-/

namespace Tabular

namespace Value

theorem areKeys_texts {values : List Value} (texts : ∀ value ∈ values, value.isText = true) :
    areKeys values = true := by
  induction values with
  | nil => rfl
  | cons value rest inductionHypothesis =>
      obtain ⟨first, others⟩ := List.forall_mem_cons.mp texts
      obtain ⟨name, rfl⟩ := isText_iff.mp first
      rw [areKeys, isKey, Bool.true_and]
      · exact inductionHypothesis others
      all_goals rintro _ ⟨⟩

end Value

namespace WriteStream

open Tabular.Action

/-- The names of the columns of a row, if it has some and all of them are texts. -/
def naming? (row : Value) : Option (List Value) :=
  match row.elements? with
  | some names => if !names.isEmpty && names.all Value.isText then some names else none
  | none => none

/-- The first row that names columns decides on them. -/
def columnsOf (offered : List Value) : List Value := (offered.findSome? naming?).getD []

/-- A row fits columns with parameters. It is a mapping with these columns in any order, and the
parameters are the stored forms of its values in the order of the columns. -/
inductive Fits (columns : List Value) : Value → Value → Prop where
  | row {entries : List (Value × Value)} {values : List Value} (named : columns ≠ [])
      (keys : ∀ name, name ∈ Keyed.keys entries ↔ name ∈ columns)
      (stored : List.Forall₂ (fun column value =>
        ∃ given, Keyed.get? entries column = some given ∧ given.stored = .ok value) columns values) :
      Fits columns (.map entries) (.map (columns.zip values))

/-- Each row that was offered is accepted with its parameters, or does not fit. -/
inductive Accepts (columns : List Value) : List Value → List Value → Prop where
  | nil : Accepts columns [] []
  | accepted {row parameters : Value} {offered accepted : List Value}
      (fits : Fits columns row parameters) (rest : Accepts columns offered accepted) :
      Accepts columns (row :: offered) (parameters :: accepted)
  | refused {row : Value} {offered accepted : List Value}
      (unfit : ∀ parameters, ¬ Fits columns row parameters)
      (rest : Accepts columns offered accepted) : Accepts columns (row :: offered) accepted

theorem Accepts.append {columns offered others accepted more : List Value}
    (first : Accepts columns offered accepted) (second : Accepts columns others more) :
    Accepts columns (offered ++ others) (accepted ++ more) := by
  induction first with
  | nil => exact second
  | accepted fits rest inductionHypothesis => exact .accepted fits inductionHypothesis
  | refused unfit rest inductionHypothesis => exact .refused unfit inductionHypothesis

/-- The parameters of a row are a mapping. -/
theorem Accepts.given {columns offered accepted : List Value}
    (accepts : Accepts columns offered accepted) : ∀ row ∈ accepted, row.isNull = false := by
  induction accepts with
  | nil => exact List.forall_mem_nil _
  | accepted fits rest inductionHypothesis =>
      refine List.forall_mem_cons.mpr ⟨?_, inductionHypothesis⟩
      cases fits
      rfl
  | refused unfit rest inductionHypothesis => exact inductionHypothesis

/-- A row that names no columns fits none. -/
theorem Fits.naming {columns : List Value} {row parameters : Value}
    (fits : Fits columns row parameters) (texts : ∀ column ∈ columns, column.isText = true) :
    naming? row ≠ none := by
  obtain ⟨named, keys, stored⟩ := fits
  rename_i entries values
  obtain ⟨column, member⟩ := List.exists_mem_of_ne_nil _ named
  have filled : Keyed.keys entries ≠ [] := List.ne_nil_of_mem ((keys column).mpr member)
  have each : (Keyed.keys entries).all Value.isText = true :=
    List.all_eq_true.mpr fun name inside => texts name ((keys name).mp inside)
  have names : naming? (.map entries) = some (Keyed.keys entries) :=
    if_pos (Bool.and_eq_true_iff.mpr ⟨by simpa [Keyed.keys] using filled, each⟩)
  simp [names]

theorem accepts_nameless {columns offered : List Value}
    (texts : ∀ column ∈ columns, column.isText = true)
    (nameless : ∀ row ∈ offered, naming? row = none) : Accepts columns offered [] := by
  induction offered with
  | nil => exact .nil
  | cons row rest inductionHypothesis =>
      obtain ⟨here, others⟩ := List.forall_mem_cons.mp nameless
      exact .refused (fun _ fits => fits.naming texts here) (inductionHypothesis others)

theorem naming?_texts {row : Value} {columns : List Value} (names : naming? row = some columns) :
    columns ≠ [] ∧ ∀ column ∈ columns, column.isText = true := by
  rw [naming?] at names
  split at names
  · split at names
    · rename_i filled
      cases names
      rw [Bool.and_eq_true, List.all_eq_true] at filled
      exact ⟨by simpa using filled.1, filled.2⟩
    · exact nomatch names
  · exact nomatch names

theorem storedColumns_eq_ok {entries : List (Value × Value)} {columns : List Value}
    {stored : List (Value × Value)} :
    storedColumns entries columns = .ok stored ↔ ∃ values, List.Forall₂ (fun column value =>
      ∃ given, Keyed.get? entries column = some given ∧ given.stored = .ok value) columns values ∧
        stored = columns.zip values := by
  induction columns generalizing stored with
  | nil =>
      simp only [storedColumns, Outcome.pure_eq_ok, List.forall₂_nil_left_iff, List.zip_nil_left,
        exists_eq_left]
      exact eq_comm
  | cons column rest inductionHypothesis =>
      cases found : Keyed.get? entries column with
      | none => simp [storedColumns, found, List.forall₂_cons_left_iff]
      | some given =>
          simp only [storedColumns, found, Outcome.bind_eq_ok, inductionHypothesis,
            Outcome.pure_eq_ok, List.forall₂_cons_left_iff]
          constructor
          · rintro ⟨value, done, _, ⟨values, each, rfl⟩, rfl⟩
            exact ⟨value :: values, ⟨value, values, ⟨given, rfl, done⟩, each, rfl⟩, rfl⟩
          · rintro ⟨_, ⟨value, values, ⟨_, same, done⟩, each, rfl⟩, rfl⟩
            cases same
            exact ⟨value, done, _, ⟨values, each, rfl⟩, rfl⟩

/-- Among texts only the same members are the same. -/
theorem sameMembers_iff {names columns : List Value}
    (texts : ∀ column ∈ columns, column.isText = true) :
    sameMembers names columns = true ↔ ∀ name, name ∈ names ↔ name ∈ columns := by
  simp only [sameMembers, Bool.and_eq_true, List.all_eq_true, List.any_eq_true]
  constructor
  · rintro ⟨first, second⟩ name
    constructor
    · intro member
      obtain ⟨column, inside, same⟩ := first name member
      obtain ⟨content, rfl⟩ := Value.isText_iff.mp (texts column inside)
      exact (Value.same_iff_text content name).mp same ▸ inside
    · intro member
      obtain ⟨content, rfl⟩ := Value.isText_iff.mp (texts name member)
      obtain ⟨other, inside, same⟩ := second _ member
      exact (Value.same_text_iff content other).mp same ▸ inside
  · intro same
    constructor
    · intro name member
      obtain ⟨content, rfl⟩ := Value.isText_iff.mp (texts name ((same name).mp member))
      exact ⟨_, (same _).mp member, (Value.same_text_iff content _).mpr rfl⟩
    · intro column member
      obtain ⟨content, rfl⟩ := Value.isText_iff.mp (texts column member)
      exact ⟨_, (same _).mpr member, (Value.same_text_iff content _).mpr rfl⟩

/-- A row has parameters exactly where it fits. -/
theorem rowParameters_eq_ok {columns : List Value} (named : columns ≠ [])
    (texts : ∀ column ∈ columns, column.isText = true) {row parameters : Value} :
    rowParameters columns row = .ok parameters ↔ Fits columns row parameters := by
  simp only [rowParameters, Outcome.bind_eq_ok]
  constructor
  · rintro ⟨names, items, done⟩
    split at done
    · cases done
    · split at done
      · obtain ⟨sorted, -, fails⟩ := Outcome.bind_eq_ok.mp done
        cases fails
      · rename_i members
        cases row with
        | map entries =>
            cases items
            obtain ⟨stored, collects, same⟩ := Outcome.bind_eq_ok.mp done
            obtain ⟨values, each, rfl⟩ := storedColumns_eq_ok.mp collects
            cases same
            exact .row named ((sameMembers_iff texts).mp (by simpa [Keyed.keys] using members)) each
        | _ => cases done
  · rintro ⟨named, keys, stored⟩
    rename_i entries values
    have members := (sameMembers_iff texts).mpr keys
    have hashable : Value.areKeys (Keyed.keys entries) = true :=
      Value.areKeys_texts fun name member => texts name ((keys name).mp member)
    refine ⟨Keyed.keys entries, rfl, ?_⟩
    simp only [hashable, members, Bool.not_true, Bool.false_eq_true, if_false, Outcome.bind_eq_ok]
    exact ⟨_, storedColumns_eq_ok.mpr ⟨values, stored, rfl⟩, rfl⟩

/-! ## Taking a row -/

theorem make_eq_ok {table : Value} {replaces : Bool} {size : Int} {stream : WriteStream} :
    make table replaces size = .ok stream ↔
      0 < size ∧ stream = { table, insertOrReplace := replaces, batchSize := size } := by
  constructor
  · intro made
    rw [make] at made
    split at made
    · cases made
    · rename_i positive
      cases made
      exact ⟨Int.not_le.mp positive, rfl⟩
  · rintro ⟨positive, rfl⟩
    exact if_neg (Int.not_le.mpr positive)

/-- This action takes a row, which then waits. -/
def take (row : Value) : Action WriteStream Unit := do
  if (← get).closed then throw .closedStream
  prepare row
  let parameters ← (rowParameters (← get).columns row : Except Failure Value)
  modify fun stream => { stream with waiting := stream.waiting ++ [parameters] }

/-- This action writes the batch when it is complete. -/
def settle (database : Database) : Action WriteStream Unit := do
  let stream ← get
  if stream.batchSize ≤ stream.waiting.length then flush database

theorem write_eq_bind (database : Database) (row : Value) :
    write database row = take row >>= fun _ => settle database := by
  simp only [write, take, settle, bind_assoc]
  refine bind_congr fun stream => ?_
  split <;> simp [bind_assoc]

/-- A stream decides on its columns with the first row that names some. -/
inductive Prepared (row : Value) (stream : WriteStream) : WriteStream → Prop where
  | already {statement : Statement} (holds : stream.statement = some statement) :
      Prepared row stream stream
  | first (bare : stream.statement = none) {columns : List Value} {sql : String}
      (names : naming? row = some columns) (text : stream.insertText columns = .ok sql) :
      Prepared row stream { stream with columns, statement := some { sql } }

variable {τ : Type}

/-- What comes of taking a row. -/
inductive Taken (row : Value) (stream : WriteStream) (start : τ) : Run WriteStream τ Unit → Prop where
  | closed (closed : stream.closed = true) :
      Taken row stream start ⟨.error .closedStream, stream, start, []⟩
  | nameless (live : stream.closed = false) (bare : stream.statement = none)
      (names : naming? row = none) (columns : List Value) (failure : Failure) :
      Taken row stream start ⟨.error failure, { stream with columns }, start, []⟩
  | unfit (live : stream.closed = false) {prepared : WriteStream}
      (prepares : Prepared row stream prepared) {failure : Failure}
      (fails : rowParameters prepared.columns row = .error failure) :
      Taken row stream start ⟨.error failure, prepared, start, []⟩
  | accepted (live : stream.closed = false) {prepared : WriteStream}
      (prepares : Prepared row stream prepared) {parameters : Value}
      (fits : rowParameters prepared.columns row = .ok parameters) :
      Taken row stream start
        ⟨.ok (), { prepared with waiting := prepared.waiting ++ [parameters] }, start, []⟩

theorem Prepared.waiting {row : Value} {stream prepared : WriteStream}
    (prepares : Prepared row stream prepared) : prepared.waiting = stream.waiting := by
  cases prepares <;> rfl

/-- A row that is not taken does not wait. -/
theorem Taken.waiting {row : Value} {stream : WriteStream} {start : τ} {run : Run WriteStream τ Unit}
    (taken : Taken row stream start run) {failure : Failure} (fails : run.outcome = .error failure) :
    run.state.waiting = stream.waiting := by
  cases taken with
  | closed | nameless => rfl
  | unfit live prepares => exact prepares.waiting
  | accepted => exact nomatch fails

theorem insertText_total {stream : WriteStream} {columns : List Value} :
    (∃ sql, stream.insertText columns = .ok sql) ↔ columns.all Value.isText = true := by
  simp only [insertText, Outcome.bind_eq_ok, Value.commaList_eq_ok, List.all_eq_true]
  constructor
  · rintro ⟨_, _, ⟨names, rfl, -⟩, -⟩ column member
    obtain ⟨name, -, rfl⟩ := List.mem_map.mp member
    rfl
  · intro texts
    exact ⟨_, _, ⟨_, Value.map_text_toText fun column member =>
      Value.isText_iff.mp (texts column member), rfl⟩, rfl⟩

theorem naming?_of_items {row : Value} {names : List Value} (items : row.items = .ok names) :
    naming? row = if !names.isEmpty && names.all Value.isText then some names else none := by
  rw [Value.items] at items
  cases found : row.elements? with
  | none =>
      rw [found] at items
      exact nomatch items
  | some elements =>
      rw [found] at items
      cases items
      rw [naming?, found]

/-- What comes of deciding on the columns. -/
theorem runOn_prepare (engine : Engine τ) (row : Value) (stream : WriteStream) (start : τ) :
    (∃ prepared, Prepared row stream prepared ∧
      (prepare row).runOn engine stream start = ⟨.ok (), prepared, start, []⟩) ∨
    stream.statement = none ∧ naming? row = none ∧ ∃ columns failure,
      (prepare row).runOn engine stream start =
        ⟨.error failure, { stream with columns }, start, []⟩ := by
  obtain ⟨table, replace, size, written, old, statement, waiting, closed⟩ := stream
  cases statement with
  | some statement => exact .inl ⟨_, .already rfl, rfl⟩
  | none =>
      simp only [prepare, runOn_bind, runOn_get, Run.follow, Option.isSome_none, Bool.false_eq_true,
        if_false, List.nil_append, runOn_lift]
      cases items : row.items with
      | error failure =>
          refine .inr ⟨True.intro, ?_, old, failure, rfl⟩
          rw [Value.items] at items
          cases found : row.elements? with
          | none => rw [naming?, found]
          | some elements =>
              rw [found] at items
              cases items
      | ok names =>
          have naming := naming?_of_items items
          cases names with
          | nil => exact .inr ⟨True.intro, naming, old, .emptyRow, rfl⟩
          | cons name rest =>
              simp only [List.isEmpty_cons, Bool.false_eq_true, if_false, runOn_bind, runOn_modify,
                Run.follow, runOn_lift, List.nil_append]
              cases text : insertText ⟨table, replace, size, written, old, none, waiting, closed⟩
                  (name :: rest) with
              | error failure =>
                  refine .inr ⟨True.intro, naming.trans (if_neg ?_), name :: rest, failure, rfl⟩
                  intro texts
                  obtain ⟨sql, written⟩ := insertText_total.mpr (Bool.and_eq_true_iff.mp texts).2
                  cases text.symm.trans written
              | ok sql =>
                  refine .inl ⟨_, .first rfl (naming.trans (if_pos ?_)) text, rfl⟩
                  exact Bool.and_eq_true_iff.mpr ⟨rfl, insertText_total.mp ⟨sql, text⟩⟩

theorem take_taken (engine : Engine τ) (row : Value) (stream : WriteStream) (start : τ) :
    Taken row stream start ((take row).runOn engine stream start) := by
  cases closed : stream.closed with
  | true =>
      simp only [take, runOn_bind, runOn_get, Run.follow, closed, if_true, runOn_throw]
      exact .closed closed
  | false =>
      simp only [take, runOn_bind, runOn_get, Run.follow, closed, Bool.false_eq_true, if_false,
        List.nil_append]
      rcases runOn_prepare engine row stream start with ⟨prepared, prepares, runs⟩ |
        ⟨bare, names, columns, failure, runs⟩
      · simp only [runs, runOn_lift]
        cases fits : rowParameters prepared.columns row with
        | error failure => exact .unfit closed prepares fits
        | ok parameters => exact .accepted closed prepares fits
      · simp only [runs]
        exact .nameless closed bare names columns failure

end WriteStream

end Tabular
