import Tabular.Proofs.Query.Addressing
import Tabular.Proofs.Value.Merging

/-!
This module shows that the clauses of a query can be added in any order. Each verb sets a part of the
query of its own, so that only calls of one verb depend on each other. Conditions that are added one
after another can be merged first, and ordering terms can be listed first.
-/

namespace Tabular.Query

/-! ## One call -/

def selectionOf (columns : Value) : Value :=
  if columns.isText then columns else .tuple (columns.elements?.getD [])

def groupingOf (columns : Value) : List Value :=
  if columns.isText then [columns] else columns.elements?.getD []

/-- The ordering terms that a call adds. -/
def termsOf (terms : Value) : List Value :=
  if terms.isText || terms.isMap then [terms] else terms.elements?.getD []

/-- The argument of a call has the form that its verb asks for. -/
def accepts (call : Verb × Value) : Bool :=
  match call.1 with
  | .select | .groupBy | .orderBy => call.2.elements?.isSome
  | .find => !(foundBy call).isEmpty
  | .from | .limit | .offset => true
  | _ => false

/-- This function adds the clause of a call whose argument has the right form. -/
def apply (query : Query) (call : Verb × Value) : Query :=
  match call.1 with
  | .select => { query with selection := selectionOf call.2 }
  | .from => { query with table := call.2 }
  | .find => { query with filter := Keyed.merge query.filter (foundBy call) }
  | .groupBy => { query with grouping := groupingOf call.2 }
  | .orderBy => { query with ordering := query.ordering ++ termsOf call.2 }
  | .limit => { query with limit := call.2 }
  | .offset => { query with offset := call.2 }
  | _ => query

variable {query next : Query} {calls : List (Verb × Value)}

theorem withClause_accepted {call : Verb × Value} (accepted : accepts call = true) :
    query.withClause call.1 call.2 = .ok (query.apply call) := by
  obtain ⟨verb, argument⟩ := call
  cases verb with
  | select | groupBy | orderBy =>
      cases argument <;> first | rfl | exact absurd accepted Bool.false_ne_true
  | find =>
      cases argument with
      | map entries =>
          cases entries with
          | nil => exact absurd accepted Bool.false_ne_true
          | cons => rfl
      | _ => exact absurd accepted Bool.false_ne_true
  | «from» | limit | offset => rfl
  | _ => exact absurd accepted Bool.false_ne_true

theorem withClause_refused (query : Query) {call : Verb × Value} (refused : accepts call = false) :
    ∃ failure, query.withClause call.1 call.2 = .error failure := by
  obtain ⟨verb, argument⟩ := call
  cases verb with
  | select | groupBy | orderBy =>
      cases argument <;> first | exact ⟨_, rfl⟩ | cases refused
  | find =>
      cases argument with
      | map entries =>
          cases entries with
          | nil => exact ⟨_, rfl⟩
          | cons => cases refused
      | _ => exact ⟨_, rfl⟩
  | «from» | limit | offset => cases refused
  | _ => exact ⟨_, rfl⟩

/-- Whether a call is accepted does not depend on the query. -/
theorem withClause_eq_ok {call : Verb × Value} :
    query.withClause call.1 call.2 = .ok next ↔ accepts call = true ∧ query.apply call = next := by
  cases accepted : accepts call with
  | true => rw [withClause_accepted accepted, Except.ok.injEq, and_iff_right rfl]
  | false =>
      obtain ⟨failure, refused⟩ := withClause_refused query accepted
      rw [refused]
      exact ⟨nofun, fun both => nomatch both.1⟩

theorem withClauses_eq_ok :
    query.withClauses calls = .ok next ↔
      (∀ call ∈ calls, accepts call = true) ∧ calls.foldl apply query = next := by
  induction calls generalizing query with
  | nil => simp [withClauses, Outcome.pure_eq_ok]
  | cons call rest inductionHypothesis =>
      rw [withClauses, Outcome.bind_eq_ok, List.forall_mem_cons, List.foldl_cons]
      constructor
      · rintro ⟨middle, first, others⟩
        obtain ⟨accepted, rfl⟩ := withClause_eq_ok.mp first
        obtain ⟨each, same⟩ := inductionHypothesis.mp others
        exact ⟨⟨accepted, each⟩, same⟩
      · rintro ⟨⟨accepted, each⟩, same⟩
        exact ⟨_, withClause_eq_ok.mpr ⟨accepted, rfl⟩, inductionHypothesis.mpr ⟨each, same⟩⟩

/-! ## Calls in another order -/

attribute [ext] Query

/-- The calls of each verb stand in the same order in both chains. -/
def Reordered (calls others : List (Verb × Value)) : Prop :=
  ∀ verb, others.filter (fun call => call.1 = verb) = calls.filter fun call => call.1 = verb

theorem Reordered.mem {others : List (Verb × Value)} (reordered : Reordered calls others)
    {call : Verb × Value} (member : call ∈ others) : call ∈ calls := by
  have kept : call ∈ others.filter fun other => other.1 = call.1 :=
    List.mem_filter.mpr ⟨member, decide_eq_true rfl⟩
  rw [reordered] at kept
  exact List.mem_of_mem_filter kept

/-- A part of a query that only one verb changes depends on the calls of this verb. -/
theorem part_apply {α : Type} {part : Query → α} {verb : Verb} {step : α → Verb × Value → α}
    (each : ∀ query call,
      part (apply query call) = if call.1 = verb then step (part query) call else part query)
    (query : Query) (calls : List (Verb × Value)) :
    part (calls.foldl apply query) =
      (calls.filter fun call => call.1 = verb).foldl step (part query) := by
  induction calls generalizing query with
  | nil => rfl
  | cons call rest inductionHypothesis =>
      rw [List.foldl_cons, inductionHypothesis, each, List.filter_cons]
      by_cases same : call.1 = verb
      · rw [if_pos same, if_pos (decide_eq_true same), List.foldl_cons]
      · rw [if_neg same, if_neg (by simpa using same)]

/-- Each verb changes a part of its own. -/
theorem apply_parts (query : Query) (call : Verb × Value) :
    query.apply call = {
      selection := if call.1 = .select then selectionOf call.2 else query.selection
      table := if call.1 = .from then call.2 else query.table
      filter := if call.1 = .find then Keyed.merge query.filter (foundBy call) else query.filter
      grouping := if call.1 = .groupBy then groupingOf call.2 else query.grouping
      ordering := if call.1 = .orderBy then query.ordering ++ termsOf call.2 else query.ordering
      limit := if call.1 = .limit then call.2 else query.limit
      offset := if call.1 = .offset then call.2 else query.offset } := by
  unfold apply
  split <;> simp_all

theorem apply_reordered {others : List (Verb × Value)} (reordered : Reordered calls others) :
    others.foldl apply query = calls.foldl apply query := by
  have part {α : Type} (part : Query → α) (verb : Verb) (step : α → Verb × Value → α)
      (each : ∀ query call,
        part (apply query call) = if call.1 = verb then step (part query) call else part query) :
      part (others.foldl apply query) = part (calls.foldl apply query) := by
    rw [part_apply each, part_apply each, reordered verb]
  have parts := apply_parts
  ext1
  · exact part _ .select (fun _ call => selectionOf call.2) fun query call => by rw [parts]
  · exact part _ .from (fun _ call => call.2) fun query call => by rw [parts]
  · exact part _ .find (fun filter call => Keyed.merge filter (foundBy call)) fun query call => by
      rw [parts]
  · exact part _ .groupBy (fun _ call => groupingOf call.2) fun query call => by rw [parts]
  · exact part _ .orderBy (fun ordering call => ordering ++ termsOf call.2) fun query call => by
      rw [parts]
  · exact part _ .limit (fun _ call => call.2) fun query call => by rw [parts]
  · exact part _ .offset (fun _ call => call.2) fun query call => by rw [parts]

/-! ## Calls of one verb -/

theorem apply_finds {finds : List (Verb × Value)} (each : ∀ call ∈ finds, call.1 = .find) :
    finds.foldl apply query =
      { query with filter := Keyed.merge query.filter (finds.flatMap foundBy) } := by
  induction finds generalizing query with
  | nil => rfl
  | cons call rest inductionHypothesis =>
      obtain ⟨isFind, eachRest⟩ := List.forall_mem_cons.mp each
      rw [List.foldl_cons, inductionHypothesis eachRest, apply, isFind, List.flatMap_cons,
        Keyed.merge_append]

/-- Conditions that are accepted one by one are accepted as one mapping. -/
theorem accepts_merged {finds : List (Verb × Value)} (filled : finds ≠ [])
    (each : ∀ call ∈ finds, call.1 = .find ∧ accepts call = true) :
    accepts (.find, .map (Keyed.ofEntries (finds.flatMap foundBy))) = true := by
  obtain ⟨call, rest, rfl⟩ := List.exists_cons_of_ne_nil filled
  obtain ⟨isFind, accepted⟩ := each call List.mem_cons_self
  rw [accepts, isFind, Bool.not_eq_true', List.isEmpty_eq_false_iff] at accepted
  rw [accepts, Bool.not_eq_true', List.isEmpty_eq_false_iff]
  intro empty
  have none := (Keyed.merge_eq_nil.mp empty).2
  rw [List.flatMap_cons, List.append_eq_nil_iff] at none
  exact accepted none.1

theorem apply_orders {orders : List (Verb × Value)} (each : ∀ call ∈ orders, call.1 = .orderBy) :
    orders.foldl apply query =
      { query with ordering := query.ordering ++ orders.flatMap fun call => termsOf call.2 } := by
  induction orders generalizing query with
  | nil => rw [List.flatMap_nil, List.append_nil]; rfl
  | cons call rest inductionHypothesis =>
      obtain ⟨isOrder, eachRest⟩ := List.forall_mem_cons.mp each
      rw [List.foldl_cons, inductionHypothesis eachRest, apply, isOrder, List.flatMap_cons,
        List.append_assoc]

/-- A run of calls can be replaced by a call that does the same. -/
theorem withClauses_replaced {before run after : List (Verb × Value)} {call : Verb × Value}
    (done : query.withClauses (before ++ run ++ after) = .ok next)
    (accepted : accepts call = true)
    (same : ∀ query : Query, query.apply call = run.foldl apply query) :
    query.withClauses (before ++ call :: after) = .ok next := by
  obtain ⟨each, rfl⟩ := withClauses_eq_ok.mp done
  refine withClauses_eq_ok.mpr ⟨fun other member => ?_, ?_⟩
  · rcases List.mem_append.mp member with member | member
    · exact each other (by simp [member])
    · rcases List.mem_cons.mp member with rfl | member
      · exact accepted
      · exact each other (by simp [member])
  · rw [List.foldl_append, List.foldl_cons, same, ← List.foldl_append, ← List.foldl_append,
      List.append_assoc]

/-! ## Statements -/

/-- What the four statements of a query are built to. -/
structure Built where
  select : Except Failure BoundText
  count : Except Failure BoundText
  delete : Except Failure BoundText
  update : Value → Except Failure BoundText

def built (query : Query) : Built where
  select := query.selectStatement
  count := query.countStatement
  delete := query.deleteStatement
  update := query.updateStatement

/-- This function builds the statements of a query after a chain of calls. -/
def builtAfter (query : Query) (calls : List (Verb × Value)) : Except Failure Built :=
  (query.withClauses calls).map built

/-- A chain of calls builds the same statements in any order that keeps the calls of each verb in
order. A run of conditions can be merged first, and a run of ordering terms can be listed first. -/
theorem clauses_commute (done : query.withClauses calls = .ok next) :
    (∀ others, Reordered calls others → query.builtAfter others = .ok next.built) ∧
      (∀ before finds after, calls = before ++ finds ++ after → finds ≠ [] →
        (∀ call ∈ finds, call.1 = .find ∧ Keyed.AreKeys (foundBy call)) →
        ∃ merged, Keyed.Merges (finds.flatMap foundBy) merged ∧
          query.builtAfter (before ++ (.find, .map merged) :: after) = .ok next.built) ∧
      ∀ before orders after, calls = before ++ orders ++ after →
        (∀ call ∈ orders, call.1 = .orderBy) →
        query.builtAfter
            (before ++ (.orderBy, .list (orders.flatMap fun call => termsOf call.2)) :: after) =
          .ok next.built := by
  have reached {others : List (Verb × Value)} (same : query.withClauses others = .ok next) :
      query.builtAfter others = .ok next.built := by
    rw [builtAfter, same]
    rfl
  refine ⟨fun others reordered => reached ?_, ?_, ?_⟩
  · obtain ⟨each, same⟩ := withClauses_eq_ok.mp done
    refine withClauses_eq_ok.mpr ⟨fun call member => each call (reordered.mem member), ?_⟩
    rw [apply_reordered reordered, same]
  · rintro before finds after rfl filled each
    have areKeys : Keyed.AreKeys (finds.flatMap foundBy) := by
      intro key member
      obtain ⟨entry, inside, rfl⟩ := List.mem_map.mp member
      obtain ⟨call, among, found⟩ := List.mem_flatMap.mp inside
      exact (each call among).2 entry.1 (List.mem_map_of_mem found)
    have accepted := accepts_merged filled fun call member =>
      ⟨(each call member).1, (withClauses_eq_ok.mp done).1 call (by simp [member])⟩
    refine ⟨_, Keyed.ofEntries_merges areKeys,
      reached (withClauses_replaced done accepted fun query => ?_)⟩
    rw [apply_finds fun call member => (each call member).1, apply, foundBy,
      Keyed.merge_ofEntries areKeys]
  · rintro before orders after rfl each
    refine reached (withClauses_replaced done rfl fun query => ?_)
    rw [apply_orders each]
    rfl

def rankedFinds : List (Verb × Value) :=
  [(.find, .map [(.text "state", .text "open"), (.int 1, .null)]),
    (.find, .map [(.text "rank", .map [(.text "$gt", .int 3)]), (.bool true, .int 2)])]

def rankedOrders : List (Verb × Value) :=
  [(.orderBy, .map [(.text "rank", .text "desc")]), (.orderBy, .list [.text "id"])]

def rankedCalls : List (Verb × Value) :=
  (.from, .text "notes") :: rankedFinds ++ rankedOrders ++ [(.limit, .int 5)]

def rankedQuery : Query where
  table := .text "notes"
  filter := [(.text "state", .text "open"), (.int 1, .int 2),
    (.text "rank", .map [(.text "$gt", .int 3)])]
  ordering := [.map [(.text "rank", .text "desc")], .text "id"]
  limit := .int 5

def movedCalls : List (Verb × Value) :=
  (.limit, .int 5) :: rankedOrders ++ (.from, .text "notes") :: rankedFinds

theorem clauses_commute_ranked :
    empty.withClauses rankedCalls = .ok rankedQuery ∧ Reordered rankedCalls movedCalls ∧
      (∀ call ∈ rankedFinds, call.1 = .find ∧ Keyed.AreKeys (foundBy call)) ∧
      empty.builtAfter movedCalls = .ok rankedQuery.built ∧
      (∃ merged, Keyed.Merges (rankedFinds.flatMap foundBy) merged ∧
        empty.builtAfter ((.from, .text "notes") :: (.find, .map merged) ::
          (rankedOrders ++ [(.limit, .int 5)])) = .ok rankedQuery.built) ∧
      empty.builtAfter ((.from, .text "notes") :: rankedFinds ++
          [(.orderBy, .list [.map [(.text "rank", .text "desc")], .text "id"]), (.limit, .int 5)]) =
        .ok rankedQuery.built := by
  have done : empty.withClauses rankedCalls = .ok rankedQuery := by decide
  have reordered : Reordered rankedCalls movedCalls := by
    intro verb
    cases verb <;> rfl
  have finds : ∀ call ∈ rankedFinds, call.1 = .find ∧ Keyed.AreKeys (foundBy call) := by decide
  obtain ⟨order, merge, list⟩ := clauses_commute done
  exact ⟨done, reordered, finds, order movedCalls reordered,
    merge [(.from, .text "notes")] rankedFinds (rankedOrders ++ [(Verb.limit, Value.int 5)]) rfl
      (by decide) finds,
    list ((.from, .text "notes") :: rankedFinds) rankedOrders [(.limit, .int 5)] rfl (by decide)⟩

end Tabular.Query
