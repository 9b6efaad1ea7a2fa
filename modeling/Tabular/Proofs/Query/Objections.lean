import Tabular.Proofs.Engine.Run
import Tabular.Proofs.Query.Addressing
import Tabular.Query.Terminal

/-!
This module says which statements of a query are refused, and why. The checks of a statement are
listed in order, and the first of them that objects gives the failure. A query whose statement is
refused asks nothing of the engine.
-/

namespace Tabular

/-! ## Checks in order -/

/-- A check is given by the failures with which it objects. -/
abbrev Check := Failure → Prop

/-- The first check that objects gives the failure. -/
inductive FirstObjection : List Check → Failure → Prop
  | here {check : Check} {rest : List Check} {failure : Failure} (objects : check failure) :
      FirstObjection (check :: rest) failure
  | later {check : Check} {rest : List Check} {failure : Failure} (passes : ∀ other, ¬ check other)
      (objection : FirstObjection rest failure) : FirstObjection (check :: rest) failure

/-- No check objects. -/
def AllPass (checks : List Check) : Prop := ∀ check ∈ checks, ∀ failure, ¬ check failure

/-- All checks of a list pass when the first one and all later ones do. -/
theorem allPass_cons {check : Check} {checks : List Check} :
    AllPass (check :: checks) ↔ (∀ failure, ¬ check failure) ∧ AllPass checks :=
  List.forall_mem_cons

namespace FirstObjection

variable {check : Check} {checks others : List Check} {failure : Failure}

theorem not_nil : ¬ FirstObjection [] failure := nofun

/-- The first objection is that of the first check, or that check passes and it is a later one. -/
theorem cons_iff : FirstObjection (check :: checks) failure ↔
    check failure ∨ (∀ other, ¬ check other) ∧ FirstObjection checks failure := by
  constructor
  · rintro (objects | ⟨passes, objection⟩)
    · exact .inl objects
    · exact .inr ⟨passes, objection⟩
  · rintro (objects | ⟨passes, objection⟩)
    · exact .here objects
    · exact .later passes objection

/-- With one check, the first objection is what this check objects to. -/
theorem singleton_iff : FirstObjection [check] failure ↔ check failure := by
  rw [cons_iff]
  exact or_iff_left fun both => not_nil both.2

/-- The second of two lists is heard only when all checks of the first pass. -/
theorem append_iff : FirstObjection (checks ++ others) failure ↔
    FirstObjection checks failure ∨ AllPass checks ∧ FirstObjection others failure := by
  induction checks with
  | nil => simp [AllPass, not_nil]
  | cons check rest inductionHypothesis =>
      rw [List.cons_append, cons_iff, cons_iff, inductionHypothesis, allPass_cons, and_or_left,
        or_assoc, and_assoc]

/-- There is a first objection when there is one at all. -/
theorem exists_iff : (∃ failure, FirstObjection checks failure) ↔
    ∃ check ∈ checks, ∃ failure, check failure := by
  induction checks with
  | nil => simp [not_nil]
  | cons check rest inductionHypothesis =>
      rw [List.exists_mem_cons_iff, ← inductionHypothesis]
      simp only [cons_iff, exists_or, exists_and_left]
      constructor
      · rintro (objects | ⟨-, objection⟩)
        · exact .inl objects
        · exact .inr objection
      · rintro (objects | objection)
        · exact .inl objects
        · by_cases objects : ∃ failure, check failure
          · exact .inl objects
          · exact .inr ⟨not_exists.mp objects, objection⟩

/-- All checks pass exactly when there is no first objection. -/
theorem allPass_iff : AllPass checks ↔ ∀ failure, ¬ FirstObjection checks failure := by
  rw [← not_exists, exists_iff]
  simp only [AllPass, not_exists, not_and]

end FirstObjection

/-! ## Steps that check -/

namespace Binding

variable {α β : Type}

/-- A step ends with the first objection of some checks, whatever was bound before. -/
def Checks (step : Binding α) (checks : List Check) : Prop :=
  ∀ binder failure, (step.runWith binder).1 = .error failure ↔ FirstObjection checks failure

/-- A step can give a value. -/
def CanGive (step : Binding α) (value : α) : Prop := ∃ binder, (step.runWith binder).1 = .ok value

namespace Checks

variable {checks others : List Check}

theorem pure (value : α) : Checks (Pure.pure value : Binding α) [] :=
  fun _ _ => iff_of_false nofun FirstObjection.not_nil

/-- An outcome that fails with its first objection makes a step that performs these checks. -/
theorem lift {outcome : Except Failure α}
    (each : ∀ failure, outcome = .error failure ↔ FirstObjection checks failure) :
    Checks (liftM outcome : Binding α) checks := by
  intro binder failure
  rw [runWith_lift]
  exact each failure

/-- An outcome that fails as one check says performs this check. -/
theorem single {outcome : Except Failure α} {check : Check}
    (each : ∀ failure, outcome = .error failure ↔ check failure) :
    Checks (liftM outcome : Binding α) [check] :=
  lift fun failure => (each failure).trans FirstObjection.singleton_iff.symm

/-- An outcome that always succeeds performs no check. -/
theorem done {outcome : Except Failure α} (gives : ∃ value, outcome = .ok value) :
    Checks (liftM outcome : Binding α) [] := by
  obtain ⟨value, rfl⟩ := gives
  exact .pure value

/-- A step that always fails performs the check that objects with its failure. -/
theorem throw {failure : Failure} {check : Check} (each : ∀ other, check other ↔ other = failure) :
    Checks (MonadExcept.throw failure : Binding α) [check] := by
  intro binder other
  rw [FirstObjection.singleton_iff, each]
  exact ⟨fun same => (Except.error.inj same).symm, fun same => same ▸ rfl⟩

/-- A check that never objects can be put before the others. -/
theorem skip {step : Binding α} {check : Check} (passes : ∀ failure, ¬ check failure)
    (checked : Checks step checks) : Checks step (check :: checks) := by
  intro binder failure
  rw [FirstObjection.cons_iff, or_iff_right (passes failure), and_iff_right passes]
  exact checked binder failure

/-- A step that gives a value passes its checks. -/
theorem passes {step : Binding α} (checked : Checks step checks) {binder later : Binder} {value : α}
    (done : step.runWith binder = (.ok value, later)) : AllPass checks := by
  refine FirstObjection.allPass_iff.mpr fun failure objection => ?_
  have refused := (checked binder failure).mpr objection
  rw [done] at refused
  cases refused

/-- Two steps perform the checks of the first, then those of the second. The second is asked only about
values that the first can give. -/
theorem bind {step : Binding α} {next : α → Binding β} (first : Checks step checks)
    (rest : ∀ value, CanGive step value → Checks (next value) others) :
    Checks (step >>= next) (checks ++ others) := by
  intro binder failure
  rw [runWith_bind, FirstObjection.append_iff]
  rcases outcome : step.runWith binder with ⟨other | value, later⟩
  · have objection := (first binder other).mp (by rw [outcome])
    have blocked : ¬ AllPass checks := fun pass =>
      FirstObjection.allPass_iff.mp pass other objection
    rw [or_iff_left fun both : AllPass checks ∧ _ => blocked both.1, ← first binder failure, outcome]
    simp only [Except.error.injEq]
  · have passed := first.passes outcome
    rw [or_iff_right (FirstObjection.allPass_iff.mp passed failure), and_iff_right passed]
    exact rest value ⟨binder, by rw [outcome]⟩ later failure

/-- A value that is bound needs a stored form. -/
theorem add (value : Value) :
    Checks (Binding.add value) [fun failure => value.stored = .error failure] := by
  intro binder failure
  rw [FirstObjection.singleton_iff]
  cases stored : value.stored with
  | error other =>
      rw [runWith_add_error stored]
      simp only [Except.error.injEq]
  | ok result =>
      rw [runWith_add stored]
      exact iff_of_false (by rintro ⟨⟩) (by rintro ⟨⟩)

end Checks

/-- What two steps can give, the second can give from something that the first can give. -/
theorem CanGive.bind {step : Binding α} {next : α → Binding β} {value : β}
    (gives : CanGive (step >>= next) value) :
    ∃ middle, CanGive step middle ∧ CanGive (next middle) value := by
  obtain ⟨binder, done⟩ := gives
  obtain ⟨middle, later, first, rest⟩ := runWith_bind_eq_ok (Prod.ext done rfl)
  exact ⟨middle, ⟨binder, by rw [first]⟩, later, by rw [rest]⟩

theorem canGive_pure {value other : α} : CanGive (pure value : Binding α) other ↔ value = other :=
  ⟨fun ⟨_, done⟩ => Except.ok.inj done, fun same => ⟨.empty, same ▸ rfl⟩⟩

/-- An outcome can give only its own value. -/
theorem canGive_lift {outcome : Except Failure α} {value : α} :
    CanGive (liftM outcome : Binding α) value ↔ outcome = .ok value := by
  simp only [CanGive, runWith_lift]
  exact ⟨fun ⟨_, done⟩ => done, fun done => ⟨.empty, done⟩⟩

end Binding

namespace Query

open Binding Outcome

/-! ## Checks of the clauses -/

/-- A direction is no truth value and the same as one of six values. -/
def IsDirection (way : Value) : Prop :=
  (∀ flag, way ≠ .bool flag) ∧
    ∃ known ∈ [Value.text "asc", .text "ascending", .int 1, .text "desc", .text "descending",
      .int (-1)], way.same known = true

/-- An ordering term is a text, or it has one column with a direction. -/
def checkTerm (term : Value) : Check := fun failure =>
  match term with
  | .text _ => False
  | .map [(_, way)] => ¬ IsDirection way ∧ failure = .orderDirection way
  | _ => failure = .orderTerm term

/-- A statement is refused for its shape where something holds. -/
def checkShape (statement clause : String) (found : Prop) : Check :=
  fun failure => found ∧ failure = .queryShape statement clause

def checkFilter (query : Query) : Check :=
  fun failure => query.filter ≠ [] ∧ Filter.read (.map query.filter) = .error failure

def checkLimit (query : Query) : Check := fun failure =>
  query.limit ≠ .null ∧ (¬ ∃ count, query.limit = .int count ∧ 0 < count) ∧
    failure = .limit query.limit

def checkOffset (query : Query) : Check := fun failure =>
  query.offset ≠ .null ∧ (¬ ∃ count, query.offset = .int count ∧ 0 ≤ count) ∧
    failure = .offset query.offset

def checkTable (query : Query) : Check :=
  checkShape "query" "no table" (query.table.isTrue = false)

/-- The checks that all statements have in common. -/
def commonChecks (query : Query) : List Check :=
  [query.checkFilter, query.checkLimit, query.checkOffset] ++ query.ordering.map checkTerm ++
    [query.checkTable]

/-- The selected columns and the grouping columns are texts. -/
structure TextColumns (query : Query) : Prop where
  selection : ∀ columns, query.selection = .tuple columns → ∀ column ∈ columns, column.isText = true
  grouping : ∀ column ∈ query.grouping, column.isText = true

variable {query : Query}

/-- A filter is refused when it is read, and each of its operands can be bound. -/
theorem compile_checks (mapping : Value) :
    Checks (Filter.compile mapping) [fun failure => Filter.read mapping = .error failure] := by
  intro binder failure
  rw [FirstObjection.singleton_iff]
  cases outcome : Filter.read mapping with
  | error other =>
      rw [Filter.compile_refused outcome]
      simp only [Except.error.injEq]
  | ok filter =>
      obtain ⟨sql, bound, compiled, -⟩ := (Filter.read_eq_ok.mp outcome).compile_allocates binder
      rw [compiled]
      exact iff_of_false (by rintro ⟨⟩) (by rintro ⟨⟩)

/-- The `WHERE` clause performs one check, that of the filter. -/
theorem conditionClause_checks : Checks query.conditionClause [query.checkFilter] := by
  unfold conditionClause
  split
  · next empty =>
      intro binder failure
      rw [FirstObjection.singleton_iff]
      exact iff_of_false nofun fun both => both.1 (List.isEmpty_iff.mp empty)
  · next filled =>
      have same : query.checkFilter =
          fun failure => Filter.read (.map query.filter) = .error failure := by
        funext failure
        exact propext (and_iff_right fun empty => filled (List.isEmpty_iff.mpr empty))
      rw [same]
      exact (compile_checks _).bind fun _ _ => .pure _

/-- Values that are all texts can be joined by commas. -/
theorem commaList_gives {values : List Value} (texts : ∀ value ∈ values, value.isText = true) :
    ∃ text, Value.commaList values = .ok text :=
  have names := Value.map_text_toText fun value member => Value.isText_iff.mp (texts value member)
  ⟨_, Value.commaList_eq_ok.mpr ⟨_, names, rfl⟩⟩

/-- The list of columns is never refused when the columns are texts. -/
theorem columnsClause_gives (texts : query.TextColumns) :
    ∃ columns, query.columnsClause = .ok columns := by
  unfold columnsClause
  split
  · exact ⟨_, rfl⟩
  · next selected => exact commaList_gives (texts.selection _ selected)
  · exact ⟨_, rfl⟩

/-- The `GROUP BY` clause is never refused when its columns are texts. -/
theorem groupingClause_gives (texts : query.TextColumns) :
    ∃ grouping, query.groupingClause = .ok grouping := by
  unfold groupingClause
  split
  · exact ⟨_, rfl⟩
  · obtain ⟨text, written⟩ := commaList_gives texts.grouping
    exact ⟨"GROUP BY " ++ text, by rw [written]; rfl⟩

/-- The `LIMIT` clause is refused exactly where the check of the limit objects. -/
theorem limitClause_refuses (failure : Failure) :
    query.limitClause = .error failure ↔ query.checkLimit failure := by
  unfold limitClause checkLimit
  cases query.limit with
  | null => exact iff_of_false nofun fun both => both.1 rfl
  | int count => by_cases positive : 0 < count <;> simp [positive, throw_eq_error, pure_eq_error]
  | _ => simp [throw_eq_error]

/-- The `OFFSET` clause is refused exactly where the check of the offset objects. -/
theorem offsetClause_refuses (failure : Failure) :
    query.offsetClause = .error failure ↔ query.checkOffset failure := by
  unfold offsetClause checkOffset
  cases query.offset with
  | null => exact iff_of_false nofun fun both => both.1 rfl
  | int count =>
      by_cases negative : count < 0
      · simp [negative, throw_eq_error]
      · by_cases positive : 0 < count <;>
          simp [negative, positive, Int.not_lt.mp negative, pure_eq_error]
  | _ => simp [throw_eq_error]

/-- A direction is refused exactly when it is neither of the two known ones. -/
theorem direction_refuses (way : Value) (failure : Failure) :
    direction way = .error failure ↔ ¬ IsDirection way ∧ failure = .orderDirection way := by
  unfold direction
  split
  · simp [IsDirection, throw_eq_error]
  · next noFlag =>
      have known : IsDirection way ↔
          [Value.text "asc", .text "ascending", .int 1].any way.same = true ∨
            [Value.text "desc", .text "descending", .int (-1)].any way.same = true := by
        rw [IsDirection, and_iff_right fun flag same => noFlag flag same]
        simp [or_assoc]
      rw [known]
      split
      · next rising => simp [rising, pure_eq_error]
      · next notRising =>
          split
          · next falling => simp [falling, pure_eq_error]
          · next notFalling => simp [notRising, notFalling, throw_eq_error]

/-- An ordering term is refused exactly where its check objects. -/
theorem orderTerm_refuses (term : Value) (failure : Failure) :
    orderTerm term = .error failure ↔ checkTerm term failure := by
  unfold orderTerm
  split
  · exact iff_of_false nofun id
  · exact bind_pure_eq_error.trans (direction_refuses _ failure)
  · next notText notEntry =>
      rw [throw_eq_error, checkTerm]
      · exact notText
      · exact fun column way => notEntry column way

/-- Reading a list fails with the failure of the first item that cannot be read. -/
theorem mapM_refuses {α β : Type} {read : α → Except Failure β} (items : List α)
    (failure : Failure) : items.mapM read = .error failure ↔
      FirstObjection (items.map fun item failure => read item = .error failure) failure := by
  induction items with
  | nil => exact iff_of_false nofun FirstObjection.not_nil
  | cons item rest inductionHypothesis =>
      rw [List.mapM_cons, List.map_cons, FirstObjection.cons_iff, ← inductionHypothesis]
      cases read item with
      | error other =>
          rw [or_iff_left fun both => both.1 other rfl]
          exact ⟨fun same => Except.error.inj same ▸ rfl, fun same => Except.error.inj same ▸ rfl⟩
      | ok result =>
          rw [or_iff_right nofun, and_iff_right nofun]
          exact bind_pure_eq_error

/-- The `ORDER BY` clause is refused with the first objection to one of its terms. -/
theorem orderingClause_refuses (failure : Failure) :
    query.orderingClause = .error failure ↔
      FirstObjection (query.ordering.map checkTerm) failure := by
  have terms : checkTerm = fun term failure => orderTerm term = .error failure := by
    funext term failure
    exact propext (orderTerm_refuses term failure).symm
  unfold orderingClause
  split
  · next empty =>
      rw [List.isEmpty_iff.mp empty]
      exact iff_of_false nofun FirstObjection.not_nil
  · rw [terms, ← mapM_refuses]
    exact bind_pure_eq_error

/-- The `FROM` clause is refused exactly where the check of the table objects. -/
theorem sourceClause_refuses (failure : Failure) :
    query.sourceClause = .error failure ↔ query.checkTable failure := by
  unfold sourceClause checkTable checkShape
  cases query.table.isTrue <;> simp [throw_eq_error, pure_eq_error]

/-- The clauses of a query perform the common checks in the order of the statement. -/
theorem clauses_checks (texts : query.TextColumns) : Checks query.clauses query.commonChecks := by
  have written : Checks query.clauses ([query.checkFilter] ++ ([] ++ ([query.checkLimit] ++
      ([query.checkOffset] ++ ([] ++ (query.ordering.map checkTerm ++ ([query.checkTable] ++ []))))))) :=
    conditionClause_checks.bind fun _ _ => (Checks.done (columnsClause_gives texts)).bind fun _ _ =>
      (Checks.single limitClause_refuses).bind fun _ _ =>
      (Checks.single offsetClause_refuses).bind fun _ _ =>
      (Checks.done (groupingClause_gives texts)).bind fun _ _ =>
      (Checks.lift orderingClause_refuses).bind fun _ _ =>
      (Checks.single sourceClause_refuses).bind fun _ _ => .pure _
  simpa [commonChecks] using written

/-! ## Checks of the statements -/

/-- The statements that are made of a query. -/
inductive Kind where
  | select
  | count
  | delete
  | update (newValues : Row)

def statement (query : Query) : Kind → Except Failure BoundText
  | .select => query.selectStatement
  | .count => query.countStatement
  | .delete => query.deleteStatement
  | .update newValues => query.updateStatement (.map newValues)

/-- A statement that changes rows has no groups. -/
def groupingCheck (query : Query) (statement : String) : Check :=
  checkShape statement "groupBy" (query.grouping ≠ [])

/-- A statement that returns no rows does not cut them off and does not order them. -/
def rowChecks (query : Query) (statement : String) : List Check :=
  [checkShape statement "limit" (query.limit ≠ .null),
    checkShape statement "offset" (∃ count, query.offset = .int count ∧ 0 < count),
    checkShape statement "orderBy" (query.ordering ≠ [])]

/-- Each new value needs a stored form. -/
def valueChecks (newValues : Row) : List Check :=
  checkShape "update" "no values" (newValues = []) ::
    newValues.map fun entry failure => entry.2.stored = .error failure

/-- The checks of a statement after those that all statements have in common. -/
def ownChecks (query : Query) : Kind → List Check
  | .select => []
  | .count => query.rowChecks "count"
  | .delete => query.groupingCheck "remove" :: query.rowChecks "remove"
  | .update newValues =>
      query.groupingCheck "update" :: query.rowChecks "update" ++ valueChecks newValues

def statementChecks (query : Query) (kind : Kind) : List Check :=
  query.commonChecks ++ query.ownChecks kind

/-- Clauses are written where the query has them. -/
structure Writes (query : Query) (written : Clauses) : Prop where
  grouping : written.grouping ≠ "" ↔ query.grouping ≠ []
  ordering : written.ordering ≠ "" ↔ query.ordering ≠ []
  limit : written.limit ≠ "" ↔ query.limit ≠ .null
  offset : written.offset ≠ "" ↔ ∃ count, query.offset = .int count ∧ 0 < count

/-- A `LIMIT` clause is written exactly when a limit is set. -/
theorem limitClause_present {limit : String} (done : query.limitClause = .ok limit) :
    limit ≠ "" ↔ query.limit ≠ .null := by
  unfold limitClause at done
  split at done
  · next unset => simp [← pure_eq_ok.mp done, unset]
  · next count set =>
      split at done
      · simp [← pure_eq_ok.mp done, set]
      · cases done
  · cases done

/-- An `OFFSET` clause is written exactly when the offset is a positive number. -/
theorem offsetClause_present {offset : String} (done : query.offsetClause = .ok offset) :
    offset ≠ "" ↔ ∃ count, query.offset = .int count ∧ 0 < count := by
  unfold offsetClause at done
  split at done
  · next unset => simp [← pure_eq_ok.mp done, unset]
  · next count set =>
      split at done
      · cases done
      · split at done
        · next positive => simp [← pure_eq_ok.mp done, set, positive]
        · next zero => simp [← pure_eq_ok.mp done, set, Int.not_lt.mp zero]
  · cases done

/-- A clause that lists items is written where there are items. -/
theorem listClause_present {α β : Type} {items : List α} {step : Except Failure β}
    {write : β → String} (visible : ∀ listed, write listed ≠ "") {clause : String}
    (done : (if items.isEmpty then pure "" else do pure (write (← step))) = Except.ok clause) :
    clause ≠ "" ↔ items ≠ [] := by
  split at done
  · next empty =>
      rw [← pure_eq_ok.mp done]
      exact iff_of_false (fun filled => filled rfl) fun filled => filled (List.isEmpty_iff.mp empty)
  · next filled =>
      obtain ⟨listed, -, written⟩ := bind_eq_ok.mp done
      rw [← pure_eq_ok.mp written]
      exact iff_of_true (visible listed) fun empty => filled (List.isEmpty_iff.mpr empty)

/-- A `GROUP BY` clause is written exactly when there are grouping columns. -/
theorem groupingClause_present {grouping : String} (done : query.groupingClause = .ok grouping) :
    grouping ≠ "" ↔ query.grouping ≠ [] :=
  listClause_present (fun columns => by simp) done

/-- An `ORDER BY` clause is written exactly when there are ordering terms. -/
theorem orderingClause_present {ordering : String} (done : query.orderingClause = .ok ordering) :
    ordering ≠ "" ↔ query.ordering ≠ [] :=
  listClause_present (fun terms => by simp) done

/-- The clauses that are present are the ones that the query asks for. -/
theorem clauses_writes {written : Clauses} (gives : CanGive query.clauses written) :
    query.Writes written := by
  obtain ⟨condition, -, gives⟩ := gives.bind
  obtain ⟨columns, -, gives⟩ := gives.bind
  obtain ⟨limit, limitDone, gives⟩ := gives.bind
  obtain ⟨offset, offsetDone, gives⟩ := gives.bind
  obtain ⟨grouping, groupingDone, gives⟩ := gives.bind
  obtain ⟨ordering, orderingDone, gives⟩ := gives.bind
  obtain ⟨source, -, gives⟩ := gives.bind
  obtain rfl := canGive_pure.mp gives
  exact {
    grouping := groupingClause_present (canGive_lift.mp groupingDone)
    ordering := orderingClause_present (canGive_lift.mp orderingDone)
    limit := limitClause_present (canGive_lift.mp limitDone)
    offset := offsetClause_present (canGive_lift.mp offsetDone) }

/-- Whether a written clause is empty can be read off the query. -/
theorem Writes.rowChecks_eq {written : Clauses} (writes : query.Writes written)
    (statement : String) :
    [(written.limit, "limit"), (written.offset, "offset"), (written.ordering, "orderBy")].map
        (fun clause => checkShape statement clause.2 (clause.1 ≠ "")) =
      query.rowChecks statement := by
  simp only [List.map_cons, List.map_nil, rowChecks, propext writes.limit, propext writes.offset,
    propext writes.ordering]

/-- A statement is refused for the first clause that it does not take. -/
theorem reject_refuses (statement : String) (found : List (String × String)) (failure : Failure) :
    reject statement found = .error failure ↔
      FirstObjection (found.map fun clause => checkShape statement clause.2 (clause.1 ≠ ""))
        failure := by
  induction found with
  | nil => exact iff_of_false nofun FirstObjection.not_nil
  | cons clause rest inductionHypothesis =>
      have first : reject statement (clause :: rest) =
          if clause.1 ≠ "" then throw (.queryShape statement clause.2) else reject statement rest := by
        rw [reject, List.find?_cons]
        by_cases absent : clause.1 = "" <;> simp [absent, reject]
      rw [List.map_cons, FirstObjection.cons_iff, ← inductionHypothesis, first]
      by_cases absent : clause.1 = "" <;> simp [absent, checkShape, throw_eq_error]

/-- A statement that takes no row clause is refused for the grouping first, then for limit, offset and
ordering. -/
theorem rejectAll_refuses {written : Clauses} (writes : query.Writes written) (statement : String)
    (failure : Failure) :
    rejectAll statement written = .error failure ↔
      FirstObjection (query.groupingCheck statement :: query.rowChecks statement) failure := by
  rw [rejectAll, reject_refuses, List.map_cons, writes.rowChecks_eq, groupingCheck,
    propext writes.grouping]

/-- The assignments of an update check the new values in their order. -/
theorem assignments_checks (entries : Row) :
    Checks (assignments entries)
      (entries.map fun entry failure => entry.2.stored = .error failure) := by
  induction entries with
  | nil => exact .pure _
  | cons entry rest inductionHypothesis =>
      obtain ⟨column, value⟩ := entry
      have later (placeholder : String) : Checks
          (do pure ((column.toText ++ " = " ++ placeholder) :: (← assignments rest))) _ :=
        inductionHypothesis.bind fun _ _ => .pure _
      rw [List.append_nil] at later
      exact (Checks.add value).bind fun placeholder _ => later placeholder

/-- A finished statement is refused with the first objection of its binding. -/
theorem finish_refuses {step : Binding String} {checks : List Check} (checked : Checks step checks)
    (failure : Failure) : finish step = .error failure ↔ FirstObjection checks failure := by
  rw [← checked .empty failure, finish]
  rcases step.runWith .empty with ⟨other | sql, binder⟩
  · exact throw_eq_error.trans ⟨fun same => same ▸ rfl, fun same => (Except.error.inj same).symm⟩
  · exact iff_of_false (by rintro ⟨⟩) (by rintro ⟨⟩)

/-- Each of the four statements is refused exactly with the first objection of its checks. -/
theorem statement_refuses (texts : query.TextColumns) (kind : Kind) (failure : Failure) :
    query.statement kind = .error failure ↔
      FirstObjection (query.statementChecks kind) failure := by
  rw [statementChecks]
  cases kind with
  | select =>
      refine finish_refuses ?_ failure
      exact (clauses_checks texts).bind fun _ _ => .pure _
  | count =>
      refine finish_refuses ((clauses_checks texts).bind fun written gives => ?_) failure
      have writes := clauses_writes gives
      rw [ownChecks, ← List.append_nil (query.rowChecks _), ← writes.rowChecks_eq]
      refine (Checks.lift (reject_refuses _ _)).bind fun _ _ => ?_
      split <;> exact .pure _
  | delete =>
      refine finish_refuses ((clauses_checks texts).bind fun written gives => ?_) failure
      rw [ownChecks, ← List.append_nil (_ :: _)]
      exact (Checks.lift (rejectAll_refuses (clauses_writes gives) _)).bind fun _ _ => .pure _
  | update newValues =>
      refine finish_refuses ((clauses_checks texts).bind fun written gives => ?_) failure
      rw [ownChecks]
      refine (Checks.lift (rejectAll_refuses (clauses_writes gives) _)).bind fun _ _ => ?_
      cases newValues with
      | nil => exact Checks.throw fun failure => and_iff_right rfl
      | cons entry rest =>
          rw [if_pos (Value.isTrue_map.mpr (List.cons_ne_nil entry rest)), valueChecks]
          refine Checks.skip (fun failure both => List.cons_ne_nil entry rest both.1) ?_
          have assigned := (assignments_checks (entry :: rest)).bind fun changes _ => .pure
            (joinParts ["UPDATE " ++ query.table.toText ++ " SET " ++
              String.intercalate ", " changes, written.condition])
          rwa [List.append_nil] at assigned

/-! ## Calls that make a statement -/

/-- An action fails and asks nothing of the engine. -/
def FailsUnasked {σ α : Type} (action : Action σ α) (failure : Failure) : Prop :=
  ∀ (τ : Type) (engine : Engine τ) (state : σ) (start : τ),
    action.runOn engine state start = ⟨.error failure, state, start, []⟩

/-- Every call that makes a statement fails and asks nothing of the engine. -/
def CallsFail (query : Query) (database : Database) (failure : Failure) : Kind → Prop
  | .select =>
      (∀ σ : Type, FailsUnasked (query.all database : Action σ _) failure ∧
        FailsUnasked (query.first database : Action σ _) failure ∧
        ∀ callback : Action.Callback σ, FailsUnasked (query.each database callback) failure) ∧
      query.prepare = .error failure ∧
      ∀ prefetch, query.stream database prefetch = .error failure
  | .count => ∀ σ : Type, FailsUnasked (query.count database : Action σ _) failure
  | .delete => ∀ σ : Type, FailsUnasked (query.remove database : Action σ _) failure
  | .update newValues =>
      ∀ σ : Type, FailsUnasked (query.update database (.map newValues) : Action σ _) failure

/-- A refusal at the start of an action ends it before anything is asked. -/
theorem failsUnasked_bind {σ α β : Type} {outcome : Except Failure α} {failure : Failure}
    (refused : outcome = .error failure) (next : α → Action σ β) :
    FailsUnasked ((liftM outcome : Action σ α) >>= next) failure := by
  intro τ engine state start
  rw [refused]
  rfl

/-- When the statement is refused, every call that would run it fails without a request. -/
theorem calls_fail (database : Database) {kind : Kind} {failure : Failure}
    (refused : query.statement kind = .error failure) : query.CallsFail database failure kind := by
  cases kind with
  | select =>
      have refused : query.selectStatement = .error failure := refused
      have prepared : query.prepare = .error failure := by rw [prepare, refused]; rfl
      refine ⟨fun σ => ⟨failsUnasked_bind refused _, failsUnasked_bind refused _, fun callback =>
        failsUnasked_bind refused _⟩, prepared, fun prefetch => ?_⟩
      rw [stream, prepared]
      rfl
  | count => intro σ; exact failsUnasked_bind refused _
  | delete => intro σ; exact failsUnasked_bind refused _
  | update newValues => intro σ; exact failsUnasked_bind refused _

/-- A statement is refused exactly when one of its checks objects, and the first one that does gives
the failure. A call that makes such a statement fails in this way and asks nothing of the engine. -/
theorem statements_checked (texts : query.TextColumns) (kind : Kind) :
    ((∃ failure, query.statement kind = .error failure) ↔
        ∃ check ∈ query.statementChecks kind, ∃ failure, check failure) ∧
      ∀ failure, (query.statement kind = .error failure ↔
          FirstObjection (query.statementChecks kind) failure) ∧
        (query.statement kind = .error failure →
          ∀ database, query.CallsFail database failure kind) := by
  refine ⟨?_, fun failure => ⟨statement_refuses texts kind failure, fun refused database =>
    calls_fail database refused⟩⟩
  rw [← FirstObjection.exists_iff]
  exact exists_congr fun failure => statement_refuses texts kind failure

/-- A query that selects its first rows. -/
def firstNotes : Query where
  selection := .tuple [.text "id", .text "rank"]
  table := .text "notes"
  filter := [(.text "state", .text "open")]
  ordering := [.text "id", .map [(.text "rank", .text "desc")]]
  limit := .int 5

/-- An update of the first notes is refused for its limit, before the value that cannot be stored. -/
theorem statements_checked_firstNotes :
    firstNotes.TextColumns ∧
      firstNotes.statement (.update [(.text "tags", .list [])]) =
        .error (.queryShape "update" "limit") ∧
      FirstObjection (firstNotes.statementChecks (.update [(.text "tags", .list [])]))
        (.queryShape "update" "limit") ∧
      ∀ database, firstNotes.CallsFail database (.queryShape "update" "limit")
        (.update [(.text "tags", .list [])]) := by
  have texts : firstNotes.TextColumns := by
    constructor
    · rintro columns ⟨⟩
      decide
    · decide
  have refused : firstNotes.statement (.update [(.text "tags", .list [])]) =
      .error (.queryShape "update" "limit") := by decide
  obtain ⟨first, fails⟩ := (statements_checked texts _).2 (.queryShape "update" "limit")
  exact ⟨texts, refused, first.mp refused, fails refused⟩

end Query

end Tabular
