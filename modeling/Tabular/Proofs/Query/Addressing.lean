import Tabular.Proofs.Filter.Allocation
import Tabular.Proofs.Query.Clauses
import Tabular.Proofs.Value.Names
import Tabular.Session.Call

/-!
This module shows that the statements of a query address the same rows. A chain of calls loses no
filter, and the four statements write the table and the filter in one way.
-/

namespace Tabular

/-- These calls group, order or cut off the rows of a query. -/
def Verb.isShape : Verb → Bool
  | .groupBy | .orderBy | .limit | .offset => true
  | _ => false

namespace Query

/-! ## Chains of calls -/

/-- This function adds the clauses of calls one after another. -/
def withClauses (query : Query) : List (Verb × Value) → Except Failure Query
  | [] => pure query
  | (verb, argument) :: rest => do (← query.withClause verb argument).withClauses rest

/-- The conditions that a call adds. -/
def foundBy : Verb × Value → Row
  | (.find, .map entries) => entries
  | _ => []

/-- The conditions that a chain of calls adds to those that are present. -/
def found (present : Row) (calls : List (Verb × Value)) : Row :=
  calls.foldl (fun filter call => Keyed.merge filter (foundBy call)) present

variable {query next : Query} {verb : Verb} {argument : Value}

/-- A call that does not shape the rows selects columns, names a table or adds conditions. -/
theorem withClause_cases (allowed : verb.isShape = false)
    (done : query.withClause verb argument = .ok next) :
    (verb = .select ∧ ∃ selection, next = { query with selection := selection }) ∨
      (verb = .from ∧ next = { query with table := argument }) ∨
      (verb = .find ∧ ∃ entry rest, argument = .map (entry :: rest) ∧
        next = { query with filter := Keyed.merge query.filter (entry :: rest) }) := by
  cases verb with
  | select =>
      refine .inl ⟨rfl, ?_⟩
      change query.select argument = .ok next at done
      unfold select at done
      split at done
      · exact ⟨_, (Except.ok.inj done).symm⟩
      · obtain ⟨columns, -, same⟩ := Outcome.bind_eq_ok.mp done
        exact ⟨.tuple columns, (Except.ok.inj same).symm⟩
  | «from» => exact .inr (.inl ⟨rfl, (Except.ok.inj done).symm⟩)
  | find =>
      refine .inr (.inr ⟨rfl, ?_⟩)
      change query.find argument = .ok next at done
      unfold find at done
      split at done
      · next entry rest => exact ⟨entry, rest, rfl, (Except.ok.inj done).symm⟩
      · cases done
  | groupBy | orderBy | limit | offset => exact absurd allowed (by decide)
  | _ => cases done

/-- One call keeps a query plain and keeps the conditions that the query has. -/
theorem withClause_keeps (allowed : verb.isShape = false)
    (done : query.withClause verb argument = .ok next) (plain : query.Plain) :
    next.Plain ∧ next.filter = Keyed.merge query.filter (foundBy (verb, argument)) ∧
      (next.filter = [] ↔ query.filter = [] ∧ verb ≠ .find) := by
  obtain ⟨grouping, ordering, limit, offset⟩ := plain
  rcases withClause_cases allowed done with
    ⟨rfl, selection, rfl⟩ | ⟨rfl, rfl⟩ | ⟨rfl, entry, rest, rfl, rfl⟩
  · exact ⟨⟨grouping, ordering, limit, offset⟩, rfl, by simp⟩
  · exact ⟨⟨grouping, ordering, limit, offset⟩, rfl, by simp⟩
  · exact ⟨⟨grouping, ordering, limit, offset⟩, rfl, by simp [Keyed.merge_eq_nil]⟩

/-- A chain of calls keeps a query plain, and the query is filtered as soon as one call filters. -/
theorem withClauses_keeps {calls : List (Verb × Value)}
    (allowed : ∀ call ∈ calls, call.1.isShape = false)
    (done : query.withClauses calls = .ok next) (plain : query.Plain) :
    next.Plain ∧ next.filter = found query.filter calls ∧
      (next.filter = [] ↔ query.filter = [] ∧ ∀ call ∈ calls, call.1 ≠ .find) := by
  induction calls generalizing query with
  | nil =>
      obtain rfl := Except.ok.inj done
      exact ⟨plain, rfl, by simp⟩
  | cons call rest inductionHypothesis =>
      obtain ⟨verb, argument⟩ := call
      obtain ⟨first, allowedRest⟩ := List.forall_mem_cons.mp allowed
      obtain ⟨middle, step, doneRest⟩ := Outcome.bind_eq_ok.mp done
      -- The query that the first call gives is plain again, so the rest of the chain starts from it.
      obtain ⟨plainMiddle, filter, absent⟩ := withClause_keeps first step plain
      obtain ⟨plainNext, filterNext, absentNext⟩ :=
        inductionHypothesis allowedRest doneRest plainMiddle
      refine ⟨plainNext, ?_, ?_⟩
      · rw [filterNext, filter]
        rfl
      · rw [absentNext, absent, List.forall_mem_cons, and_assoc]

/-! ## Written conditions -/

open Binding

/-- The condition is absent without a filter, and it is the compiled filter otherwise. -/
theorem conditionClause_cases {condition : String} {binder : Binder}
    (done : (conditionClause query).runWith .empty = (.ok condition, binder)) :
    (query.filter = [] ∧ condition = "" ∧ binder = .empty) ∨
      (query.filter ≠ [] ∧ ∃ sql, condition = "WHERE (" ++ sql ++ ")" ∧
        (Filter.compile (.map query.filter)).runWith .empty = (.ok sql, binder)) := by
  unfold conditionClause at done
  split at done
  · next empty =>
      obtain ⟨text, same⟩ := Prod.mk.inj done
      exact .inl ⟨List.isEmpty_iff.mp empty, (Except.ok.inj text).symm, same.symm⟩
  · next filled =>
      obtain ⟨sql, middle, compiled, written⟩ := runWith_bind_eq_ok done
      obtain ⟨text, rfl⟩ := Prod.mk.inj written
      refine .inr ⟨fun empty => filled (List.isEmpty_iff.mpr empty), sql, ?_, compiled⟩
      exact (Except.ok.inj text).symm

/-- A condition is refused only because its mapping is no filter. -/
theorem conditionClause_refused {failure : Failure} {binder : Binder}
    (refused : (conditionClause query).runWith .empty = (.error failure, binder)) :
    query.filter ≠ [] ∧ Filter.read (.map query.filter) = .error failure := by
  unfold conditionClause at refused
  split at refused
  · cases refused
  · next filled =>
      refine ⟨fun empty => filled (List.isEmpty_iff.mpr empty), ?_⟩
      rw [runWith_bind] at refused
      cases outcome : Filter.read (.map query.filter) with
      | error other =>
          rw [Filter.compile_refused outcome] at refused
          exact congrArg Except.error (Except.error.inj (Prod.mk.inj refused).1)
      | ok filter =>
          -- A filter that is read is always compiled, because each of its operands is bound.
          obtain ⟨sql, bound, compiled, -⟩ :=
            (Filter.read_eq_ok.mp outcome).compile_allocates .empty
          rw [compiled] at refused
          cases refused

theorem compile_placeholders {mapping : Value} {sql : String} {binder : Binder}
    (done : (Filter.compile mapping).runWith .empty = (.ok sql, binder)) :
    Sql.placeholders sql = Binder.placeholdersFrom 1 binder.size := by
  obtain ⟨filter, reads, -⟩ := Filter.compile_eq_ok done
  obtain ⟨result, bound, compiled, -, placeholders⟩ := reads.compile_allocates .empty
  obtain ⟨text, rfl⟩ := Prod.mk.inj (compiled.symm.trans done)
  obtain rfl := Except.ok.inj text
  exact placeholders

theorem setOff_closes (clause : String) : Sql.Closes (setOff clause) := by
  unfold setOff
  split
  · decide
  · have blank : Sql.Closes " " := by decide
    exact blank.append (by decide) clause

section Condition

variable {condition : String} {binder : Binder}
  (done : (conditionClause query).runWith .empty = (.ok condition, binder))

include done

theorem condition_absent : setOff condition = "" ↔ query.filter = [] := by
  rcases conditionClause_cases done with ⟨empty, rfl, rfl⟩ | ⟨filled, sql, rfl, -⟩
  · exact iff_of_true rfl empty
  · exact iff_of_false (by simp [setOff]) filled

theorem condition_present (present : setOff condition ≠ "") :
    ∃ sql, setOff condition = " WHERE (" ++ sql ++ ")" ∧
      (Filter.compile (.map query.filter)).runWith .empty = (.ok sql, binder) := by
  rcases conditionClause_cases done with ⟨-, rfl, rfl⟩ | ⟨-, sql, rfl, compiled⟩
  · exact absurd rfl present
  · refine ⟨sql, ?_, compiled⟩
    rw [setOff_present (by simp), ← String.append_assoc, ← String.append_assoc]
    rfl

/-- A condition shows the placeholders of its parameters. -/
theorem condition_placeholders :
    Sql.placeholders (setOff condition) = Binder.placeholdersFrom 1 binder.size := by
  rcases conditionClause_cases done with ⟨-, rfl, rfl⟩ | ⟨-, sql, rfl, compiled⟩
  · rfl
  · rw [setOff_present (by simp), ← String.append_assoc, ← String.append_assoc,
      Sql.placeholders_closed _ (by decide) (by decide), Sql.placeholders_free (by decide),
      compile_placeholders compiled]

end Condition

theorem plainName_free {name : String} (plain : Sql.PlainName name) : '$' ∉ name.toList :=
  fun member => absurd (Sql.isName_all plain '$' member) (by decide)

/-- The changes of an update show the placeholders of the new values in order. -/
theorem changes_placeholders {names : List String} (plain : ∀ name ∈ names, Sql.PlainName name)
    (number : Nat) :
    Sql.placeholders (String.intercalate ", " (assignmentTexts number names)) =
      Binder.placeholdersFrom number names.length := by
  rw [Sql.placeholders_intercalate (by decide) (by decide) (by decide),
    Binder.placeholdersFrom_eq]
  induction names generalizing number with
  | nil => rfl
  | cons name rest inductionHypothesis =>
      obtain ⟨first, plainRest⟩ := List.forall_mem_cons.mp plain
      have free : '$' ∉ (name ++ " = ").toList := by
        simp [String.toList_append, plainName_free first]
      rw [assignmentTexts, List.flatMap_cons, Sql.placeholders_free free,
        Sql.placeholders_placeholder, inductionHypothesis plainRest]
      rfl

/-! ## Addressed rows -/

/-- The changes of an update set its columns in order to parameters that count on from a number. -/
def Assigns (entries : Row) (number : Nat) (changes : String) (changed : List Value) : Prop :=
  ∃ columns, List.Forall₂ Keeps entries columns ∧
    changes = String.intercalate ", " (assignmentTexts number (columns.map Prod.fst)) ∧
    changed = columns.map Prod.snd

end Query

/-- Each placeholder in the text of the statement is the name of a parameter behind a dollar. -/
def BoundText.IsBound (statement : BoundText) : Prop :=
  ∃ entries : Row, statement.parameters = .map entries ∧
    ∀ placeholder ∈ Sql.placeholders statement.sql,
      ∃ name, placeholder = "$" ++ name ∧ .text name ∈ entries.keys

/-- Numbered parameters bind the placeholders that stand for them. -/
theorem BoundText.isBound_numbered {sql : String} {values : List Value}
    (within : ∀ placeholder ∈ Sql.placeholders sql,
      placeholder ∈ Binder.placeholdersFrom 1 values.length) :
    BoundText.IsBound ⟨sql, .map (Binder.numbered 1 values)⟩ := by
  refine ⟨_, rfl, fun placeholder shown => ?_⟩
  obtain ⟨number, range, rfl⟩ := Binder.mem_placeholdersFrom.mp (within placeholder shown)
  refine ⟨Binder.name number, rfl, ?_⟩
  rw [← Binder.named_eq, Binder.named_keys]
  exact List.mem_map_of_mem (List.mem_range'_1.mpr range)

namespace Query

/-- The parts that the statements of a query are made of. Only the selected columns and the changes
belong to one statement. -/
structure StatementParts where
  selected : String
  condition : String
  changes : String
  bound : List Value
  changed : List Value

/-- The four statements of a query name one table and have one condition, which is absent when no
call filters. The parameters of the changes follow those of the condition. -/
structure SameRows (query : Query) (calls : List (Verb × Value)) (table : String) (entries : Row)
    (parts : StatementParts) : Prop where
  select : query.selectStatement =
    .ok ⟨"SELECT " ++ parts.selected ++ " FROM " ++ table ++ parts.condition,
      .map (Binder.numbered 1 parts.bound)⟩
  count : query.countStatement =
    .ok ⟨"SELECT COUNT(*) AS count FROM " ++ table ++ parts.condition,
      .map (Binder.numbered 1 parts.bound)⟩
  delete : query.deleteStatement =
    .ok ⟨"DELETE FROM " ++ table ++ parts.condition, .map (Binder.numbered 1 parts.bound)⟩
  update : query.updateStatement (.map entries) =
    .ok ⟨"UPDATE " ++ table ++ " SET " ++ parts.changes ++ parts.condition,
      .map (Binder.numbered 1 parts.bound ++
        Binder.numbered (parts.bound.length + 1) parts.changed)⟩
  assigns : Assigns entries (parts.bound.length + 1) parts.changes parts.changed
  isBound : ∀ statement, query.updateStatement (.map entries) = .ok statement → statement.IsBound
  apart : (Sql.placeholders parts.changes).Disjoint (Sql.placeholders parts.condition)
  unfiltered : parts.condition = "" ↔ ∀ call ∈ calls, call.1 ≠ .find
  filtered : parts.condition ≠ "" → ∃ sql, parts.condition = " WHERE (" ++ sql ++ ")" ∧
    (Filter.compile (.map (found [] calls))).runWith .empty = (.ok sql, ⟨parts.bound⟩)

/-- The conditions of a query are no filter, or a selected column is no text. -/
def RefusedFor (query : Query) (failure : Failure) : Prop :=
  (query.filter ≠ [] ∧ Filter.read (.map query.filter) = .error failure) ∨
    columnsClause query = .error failure

section Written

variable {selected condition table : String} {bound : List Value}
  {entries : Row} {columns : List (String × Value)}

/-- An update shows the placeholders of its changes before those of its condition. -/
theorem update_placeholders (named : Sql.PlainName table) (changes condition : String) :
    Sql.placeholders ("UPDATE " ++ table ++ " SET " ++ changes ++ setOff condition) =
      Sql.placeholders changes ++ Sql.placeholders (setOff condition) := by
  have free : '$' ∉ ("UPDATE " ++ table ++ " SET ").toList := by
    simp [String.toList_append, plainName_free named]
  rw [Sql.placeholders_append _ (setOff_closes condition), Sql.placeholders_free free]

theorem update_isBound (named : Sql.PlainName table)
    (plain : ∀ name ∈ columns.map Prod.fst, Sql.PlainName name)
    (shown : Sql.placeholders (setOff condition) = Binder.placeholdersFrom 1 bound.length) :
    BoundText.IsBound ⟨"UPDATE " ++ table ++ " SET " ++
        String.intercalate ", " (assignmentTexts (bound.length + 1) (columns.map Prod.fst)) ++
        setOff condition,
      .map (Binder.numbered 1 (bound ++ columns.map Prod.snd))⟩ := by
  refine BoundText.isBound_numbered fun placeholder member => ?_
  rw [update_placeholders named, shown, changes_placeholders plain, List.mem_append,
    List.length_map] at member
  rw [List.length_append, List.length_map, Binder.placeholdersFrom_add, List.mem_append,
    Nat.add_comm 1]
  exact member.symm

theorem statements_written (source : query.table = .text table)
    (written : (clauses query).runWith .empty =
      (.ok (plainClauses selected ("FROM " ++ query.table.toText) condition), ⟨bound⟩))
    (each : List.Forall₂ Keeps entries columns) (filled : entries ≠ []) :
    query.selectStatement =
        .ok ⟨"SELECT " ++ selected ++ " FROM " ++ table ++ setOff condition,
          .map (Binder.numbered 1 bound)⟩ ∧
      query.countStatement =
        .ok ⟨"SELECT COUNT(*) AS count FROM " ++ table ++ setOff condition,
          .map (Binder.numbered 1 bound)⟩ ∧
      query.deleteStatement =
        .ok ⟨"DELETE FROM " ++ table ++ setOff condition, .map (Binder.numbered 1 bound)⟩ ∧
      query.updateStatement (.map entries) =
        .ok ⟨"UPDATE " ++ table ++ " SET " ++
            String.intercalate ", " (assignmentTexts (bound.length + 1) (columns.map Prod.fst)) ++
            setOff condition,
          .map (Binder.numbered 1 (bound ++ columns.map Prod.snd))⟩ := by
  have text : query.table.toText = table := by rw [source]; rfl
  have sourceText : setOff ("FROM " ++ table) = " FROM " ++ table := by
    rw [setOff_present (by simp), ← String.append_assoc]
    rfl
  rw [selectStatement_plain written, countStatement_plain written, deleteStatement_plain written,
    updateStatement_plain written each filled, text, sourceText, Binder.parameters_eq,
    Binder.named_eq]
  refine ⟨?_, ?_, ?_, rfl⟩
  · rw [← String.append_assoc]
  · rw [← String.append_assoc]
    rfl
  · rw [← String.append_assoc]
    rfl

end Written

/-- After any calls that only select, name a table and filter, the four statements are refused for one
reason or address the same rows. -/
theorem statements_addressSameRows {calls : List (Verb × Value)}
    (allowed : ∀ call ∈ calls, call.1.isShape = false)
    (reached : empty.withClauses calls = .ok query)
    {table : String} (source : query.table = .text table) (named : Sql.PlainName table)
    {entries : Row} (filled : entries ≠ []) (columns : ∀ name ∈ entries.keys, name.isPlain = true)
    (convertible : ∀ entry ∈ entries, ∃ stored, entry.2.stored = .ok stored) :
    (∃ failure, query.RefusedFor failure ∧ query.selectStatement = .error failure ∧
        query.countStatement = .error failure ∧ query.deleteStatement = .error failure ∧
        query.updateStatement (.map entries) = .error failure) ∨
      ∃ parts, SameRows query calls table entries parts := by
  obtain ⟨plain, filter, absent⟩ := withClauses_keeps allowed reached ⟨rfl, rfl, rfl, rfl⟩
  have isTrue : query.table.isTrue = true := by
    rw [source, Value.isTrue_text]
    rintro rfl
    exact absurd named (by decide)
  -- Every statement begins with the clauses, so the statements are refused together.
  rcases plain.clauses_cases isTrue with
    ⟨failure, binder, refused, cause⟩ | ⟨selected, condition, ⟨bound⟩, conditionDone, written⟩
  · exact .inl ⟨failure, cause.imp_left conditionClause_refused, statements_refused refused _⟩
  have texts : ∀ entry ∈ entries, ∃ name, entry.1 = .text name := by
    intro entry member
    obtain ⟨name, same, -⟩ := Value.isPlain_iff.mp (columns _ (List.mem_map_of_mem member))
    exact ⟨name, same⟩
  obtain ⟨kept, each⟩ := keeps_of_each texts convertible
  have plainNames := Value.plainNames (keeps_keys each ▸ columns)
  have shown : Sql.placeholders (setOff condition) = Binder.placeholdersFrom 1 bound.length :=
    condition_placeholders conditionDone
  have joined : Binder.numbered 1 (bound ++ kept.map Prod.snd) =
      Binder.numbered 1 bound ++ Binder.numbered (bound.length + 1) (kept.map Prod.snd) := by
    rw [Binder.numbered_append, Nat.add_comm 1]
  obtain ⟨select, count, delete, update⟩ := statements_written source written each filled
  refine .inr ⟨⟨selected, setOff condition, String.intercalate ", "
    (assignmentTexts (bound.length + 1) (kept.map Prod.fst)), bound, kept.map Prod.snd⟩, ?_⟩
  exact {
    select, count, delete
    update := joined ▸ update
    assigns := ⟨kept, each, rfl, rfl⟩
    isBound := by
      intro statement made
      obtain rfl := Except.ok.inj (update.symm.trans made)
      exact update_isBound named plainNames shown
    apart := by
      rw [shown, changes_placeholders plainNames]
      exact (Binder.placeholdersFrom_disjoint (Nat.le_of_eq (Nat.add_comm 1 _)) _).symm
    unfiltered := by
      rw [condition_absent conditionDone, absent]
      exact ⟨And.right, And.intro rfl⟩
    filtered := by
      intro present
      have compiled := condition_present conditionDone present
      rwa [filter] at compiled }

/-- A chain of calls that filters twice. -/
def noteCalls : List (Verb × Value) :=
  [(.find, .map [(.text "state", .text "open")]), (.from, .text "notes"), (.select, .text "id"),
    (.find, .map [(.text "rank", .map [(.text "$gt", .int 3)])])]

def noteChanges : Row := [(.text "state", .text "done"), (.text "rank", .int 0)]

def noteQuery : Query where
  selection := .text "id"
  table := .text "notes"
  filter := [(.text "state", .text "open"), (.text "rank", .map [(.text "$gt", .int 3)])]

theorem statements_addressSameRows_notes :
    ((∀ call ∈ noteCalls, call.1.isShape = false) ∧ empty.withClauses noteCalls = .ok noteQuery ∧
      noteQuery.table = .text "notes" ∧ Sql.PlainName "notes" ∧ noteChanges ≠ [] ∧
      (∀ name ∈ noteChanges.keys, name.isPlain = true) ∧
      ∀ entry ∈ noteChanges, ∃ stored, entry.2.stored = .ok stored) ∧
    ∃ parts, SameRows noteQuery noteCalls "notes" noteChanges parts := by
  have allowed : ∀ call ∈ noteCalls, call.1.isShape = false := by decide
  have reached : empty.withClauses noteCalls = .ok noteQuery := by rfl
  have named : Sql.PlainName "notes" := by decide
  have filled : noteChanges ≠ [] := by decide
  have columns : ∀ name ∈ noteChanges.keys, name.isPlain = true := by decide
  have convertible : ∀ entry ∈ noteChanges, ∃ stored, entry.2.stored = .ok stored := by
    simp [noteChanges, Value.stored, Outcome.pure_eq_ok]
  refine ⟨⟨allowed, reached, rfl, named, filled, columns, convertible⟩, ?_⟩
  rcases statements_addressSameRows allowed reached rfl named filled columns convertible with
    ⟨failure, -, refused, -⟩ | same
  · cases refused
  · exact same

end Query

end Tabular
