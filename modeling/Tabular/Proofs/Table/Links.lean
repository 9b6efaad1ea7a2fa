import Mathlib.Data.List.Nodup
import Mathlib.Data.List.Pairwise
import Mathlib.Logic.Function.Basic
import Tabular.Proofs.Schema.Agreement
import Tabular.Proofs.Schema.Declared
import Tabular.Proofs.Table.Catalogue

/-!
This module reads the reported foreign keys of a table. Their rows are collected by their numbers, and
each collection describes one declared foreign key.
-/

namespace Tabular

namespace Schema

/-! ## Collected rows -/

/-- Rows that are collected under numbers. -/
def collected (numbers : List Int) (rowsOf : Int → List Row) : Keyed (List Row) :=
  numbers.map fun number => (.int number, rowsOf number)

theorem get?_collected (numbers : List Int) (rowsOf : Int → List Row) (number : Int) :
    (collected numbers rowsOf).get? (.int number) =
      if number ∈ numbers then some (rowsOf number) else none := by
  induction numbers with
  | nil => rfl
  | cons first rest inductionHypothesis =>
      rw [collected, List.map_cons, Keyed.get?_cons, Value.same_int_int]
      by_cases same : number = first
      · simp [same]
      · rw [if_neg (by simpa using same)]
        refine inductionHypothesis.trans ?_
        simp [same]

/-- Putting the rows of one number changes no other rows. -/
theorem put_collected {numbers : List Int} (once : numbers.Nodup) (rowsOf : Int → List Row)
    (number : Int) (rows : List Row) :
    (collected numbers rowsOf).put (.int number) rows =
      collected (if number ∈ numbers then numbers else numbers ++ [number])
        (Function.update rowsOf number rows) := by
  have others {numbers : List Int} (absent : number ∉ numbers) :
      collected numbers (Function.update rowsOf number rows) = collected numbers rowsOf := by
    refine List.map_congr_left fun other member => ?_
    rw [Function.update_of_ne]
    rintro rfl
    exact absent member
  split
  · next member =>
      induction numbers with
      | nil => exact absurd member List.not_mem_nil
      | cons first rest inductionHypothesis =>
          obtain ⟨fresh, onceRest⟩ := List.nodup_cons.mp once
          change Keyed.put ((.int first, rowsOf first) :: collected rest rowsOf) _ _ =
            (.int first, Function.update rowsOf number rows first) :: collected rest _
          rw [Keyed.put, Value.same_int_int]
          by_cases same : number = first
          · subst same
            rw [if_pos (beq_self_eq_true number), Function.update_self, others fresh]
          · rw [if_neg (by simpa using same), Function.update_of_ne (Ne.symm same),
              inductionHypothesis onceRest (List.mem_of_ne_of_mem same member)]
  · next absent =>
      have apart : ∀ other ∈ (collected numbers rowsOf).keys, (Value.int number).same other = false := by
        intro other member
        rw [collected, Keyed.keys, List.map_map] at member
        obtain ⟨found, inside, rfl⟩ := List.mem_map.mp member
        rw [Function.comp_apply, Value.same_int_int, beq_eq_false_iff_ne]
        rintro rfl
        exact absent inside
      rw [Keyed.put_absent apart, ← others absent, collected, collected, List.map_append]
      simp

/-- Rows are collected behind those that were collected before under the same number. -/
theorem groupRows_behind {rows : List Row}
    (numbered : ∀ row ∈ rows, ∃ number, row.column "id" = .ok (.int number)) {numbers : List Int}
    (once : numbers.Nodup) {rowsOf : Int → List Row}
    (none : ∀ number ∉ numbers, rowsOf number = []) :
    ∃ all : List Int, all.Nodup ∧
      (∀ number, number ∈ all ↔ number ∈ numbers ∨ number ∈ rows.map (placeOf "id")) ∧
      groupRows rows (collected numbers rowsOf) = .ok (collected all fun number =>
        rowsOf number ++ rows.filter fun row => placeOf "id" row = number) := by
  induction rows generalizing numbers rowsOf with
  | nil => exact ⟨numbers, once, by simp, by simp [groupRows]; rfl⟩
  | cons row rest inductionHypothesis =>
      obtain ⟨⟨number, reports⟩, numberedRest⟩ := List.forall_mem_cons.mp numbered
      have before : ((collected numbers rowsOf).get? (.int number)).getD [] = rowsOf number := by
        rw [get?_collected]
        split
        · rfl
        · next absent => exact (none number absent).symm
      have onceNext : (if number ∈ numbers then numbers else numbers ++ [number]).Nodup := by
        split
        · exact once
        · next absent =>
            exact once.append (List.nodup_singleton _) (List.disjoint_singleton.mpr absent)
      have memberNext (other : Int) :
          other ∈ (if number ∈ numbers then numbers else numbers ++ [number]) ↔
            other ∈ numbers ∨ other = number := by
        split
        · next member => exact ⟨.inl, fun either => either.elim id fun same => same ▸ member⟩
        · rw [List.mem_append, List.mem_singleton]
      -- A number that comes for the first time has no rows yet, so it starts with this one.
      have noneNext : ∀ other ∉ (if number ∈ numbers then numbers else numbers ++ [number]),
          Function.update rowsOf number (rowsOf number ++ [row]) other = [] := by
        intro other absent
        rw [memberNext, not_or] at absent
        rw [Function.update_of_ne absent.2, none other absent.1]
      obtain ⟨all, onceAll, memberAll, grouped⟩ :=
        inductionHypothesis numberedRest onceNext noneNext
      refine ⟨all, onceAll, fun other => ?_, ?_⟩
      · rw [memberAll, memberNext, or_assoc, List.map_cons, placeOf_eq reports, List.mem_cons]
      · rw [groupRows, reports, Outcome.ok_bind, before, put_collected once, grouped]
        congr 2
        funext other
        rw [List.filter_cons, placeOf_eq reports]
        by_cases same : number = other
        · subst same
          simp
        · rw [Function.update_of_ne (Ne.symm same)]
          simp [same]

/-- Rows are collected under their numbers, and each number keeps the order of its rows. -/
theorem groupRows_numbered {rows : List Row}
    (numbered : ∀ row ∈ rows, ∃ number, row.column "id" = .ok (.int number)) :
    ∃ numbers : List Int, numbers.Nodup ∧
      (∀ number, number ∈ numbers ↔ number ∈ rows.map (placeOf "id")) ∧
      groupRows rows [] = .ok (collected numbers fun number =>
        rows.filter fun row => placeOf "id" row = number) := by
  have none : ∀ number ∉ ([] : List Int), (fun _ : Int => ([] : List Row)) number = [] :=
    fun _ _ => rfl
  obtain ⟨numbers, once, member, grouped⟩ := groupRows_behind numbered List.nodup_nil none
  exact ⟨numbers, once, fun number => (member number).trans (or_iff_right List.not_mem_nil), grouped⟩

/-- The links of some rows are collected: each number has the rows of its links. -/
structure Collects (links : List Link) (numbers : List Int) (rowsOf : Int → List Row) : Prop where
  once : numbers.Nodup
  occurs : ∀ number, number ∈ numbers ↔ ∃ link ∈ links, link.number = number
  rows : ∀ number, List.Forall₂ LinkRow (links.filter fun link => link.number = number)
    (rowsOf number)

theorem groupRows_ok {links : List Link} {rows : List Row}
    (each : List.Forall₂ LinkRow links rows) :
    ∃ numbers rowsOf, groupRows rows [] = .ok (collected numbers rowsOf) ∧
      Collects links numbers rowsOf := by
  have numbered : ∀ row ∈ rows, ∃ number, row.column "id" = .ok (.int number) := by
    intro row member
    obtain ⟨link, -, stands⟩ := Outcome.standing each member
    exact ⟨_, stands.number⟩
  obtain ⟨numbers, once, member, grouped⟩ := groupRows_numbered numbered
  have places : rows.map (placeOf "id") = links.map Link.number := by
    rw [← List.forall₂_eq_eq_eq, List.forall₂_map_left_iff, List.forall₂_map_right_iff]
    exact each.flip.imp fun row link stands => placeOf_eq stands.number
  refine ⟨numbers, _, grouped, once, fun number => ?_, fun number => List.rel_filter ?_ each⟩
  · rw [member, places, List.mem_map]
  · intro link row stands
    dsimp only
    rw [placeOf_eq stands.number]

end Schema

/-! ## One foreign key -/

namespace NumberedKey

/-- The columns of a foreign key are texts and come in pairs. -/
structure Sound (key : NumberedKey) : Prop where
  sources : ∀ name ∈ key.source, ∃ content, name = Value.text content
  targets : ∀ name ∈ key.target, ∃ content, name = Value.text content
  table : ∃ content, key.table = .text content
  filled : key.source ≠ []
  paired : key.source.length = key.target.length

/-- What the foreign key refers to. -/
def reference (key : NumberedKey) : Reference :=
  ⟨key.source.map Value.toText, Text.lower key.table.toText, key.target.map Value.toText⟩

/-- The foreign key that is read. -/
def read (key : NumberedKey) : ForeignKey where
  source := Schema.oneOrTuple key.source
  references := [(key.table, Schema.oneOrTuple key.target)]

variable {key : NumberedKey}

/-- A row of a foreign key stands for a pair of its columns. -/
structure PairRow (table : Value) (pair : Value × Value) (row : Row) : Prop where
  table : row.column "table" = .ok table
  source : row.column "from" = .ok pair.1
  target : row.column "to" = .ok pair.2

/-- The links of a foreign key have its number and its table. -/
theorem link_owned {link : Link} (member : link ∈ key.links) :
    link.number = key.number ∧ link.table = key.table := by
  obtain ⟨columns, -, rfl⟩ := List.mem_map.mp member
  exact ⟨rfl, rfl⟩

theorem links_places {links : List Link} (perm : links.Perm key.links) {rows : List Row}
    (each : List.Forall₂ LinkRow links rows) :
    ListsPlaces "seq" (PairRow key.table) (key.source.zip key.target) rows := by
  refine ⟨links.map Link.columns, ?_, ?_⟩
  · have columns := perm.map Link.columns
    rwa [NumberedKey.links, List.map_map, show (Link.columns ∘ fun columns => _) = id from rfl,
      List.map_id] at columns
  · have owned : ∀ link ∈ links, link.table = key.table :=
      fun link member => (link_owned (perm.subset member)).2
    rw [List.forall₂_map_left_iff]
    refine ((List.forall₂_and_left links rows).mpr ⟨owned, each⟩).imp fun link row stands => ?_
    obtain ⟨table, stands⟩ := stands
    exact ⟨stands.place, table ▸ stands.table, stands.source, stands.target⟩

theorem reportedForeignKey_ok (sound : key.Sound) {links : List Link}
    (perm : links.Perm key.links) {rows : List Row} (each : List.Forall₂ LinkRow links rows) :
    Schema.reportedForeignKey rows = .ok key.read := by
  obtain ⟨placed, sorted, placedDone, sortedDone, pairs⟩ := (links_places perm each).sorted
  have sources : (sorted.mapM fun row => row.column "from") = .ok key.source := by
    rw [Outcome.mapM_eq_ok, ← List.map_fst_zip sound.paired.le, List.forall₂_map_right_iff]
    exact pairs.flip.imp fun row pair stands => stands.source
  have targets : (sorted.mapM fun row => row.column "to") = .ok key.target := by
    rw [Outcome.mapM_eq_ok, ← List.map_snd_zip sound.paired.ge, List.forall₂_map_right_iff]
    exact pairs.flip.imp fun row pair stands => stands.target
  have texts : (key.target.filter fun value => !value.isNull) = key.target := by
    rw [List.filter_eq_self]
    intro name member
    obtain ⟨content, rfl⟩ := sound.targets name member
    rfl
  rw [Schema.reportedForeignKey, placedDone]
  simp only [Outcome.ok_bind, sortedDone, sources, targets]
  cases pairs' : key.source.zip key.target with
  | nil =>
      refine absurd ?_ sound.filled
      have lengths := congrArg List.length pairs'
      rw [List.length_zip, ← sound.paired, Nat.min_self] at lengths
      exact List.length_eq_zero_iff.mp lengths
  | cons pair rest =>
      rw [pairs'] at pairs
      obtain ⟨row, others, stands, -, rfl⟩ := List.forall₂_cons_left_iff.mp pairs
      simp only [stands.table, Outcome.ok_bind, texts]
      rfl

theorem Sound.links_ne_nil (sound : key.Sound) : key.links ≠ [] := by
  intro none
  refine sound.filled (List.length_eq_zero_iff.mp ?_)
  have lengths := congrArg List.length none
  rwa [links, List.length_map, List.length_zipIdx, List.length_zip, ← sound.paired,
    Nat.min_self] at lengths

theorem filter_links (key : NumberedKey) (number : Int) :
    (key.links.filter fun link => link.number = number) =
      if key.number = number then key.links else [] := by
  split
  · next same =>
      rw [List.filter_eq_self]
      exact fun link member => decide_eq_true ((link_owned member).1.trans same)
  · next other =>
      rw [List.filter_eq_nil_iff]
      exact fun link member same => other ((link_owned member).1.symm.trans (of_decide_eq_true same))

/-- The links of one number are those of its foreign key. -/
theorem filter_flatMap_links {keys : List NumberedKey} (once : (keys.map number).Nodup)
    (member : key ∈ keys) :
    ((keys.flatMap links).filter fun link => link.number = key.number) = key.links := by
  induction keys with
  | nil => exact absurd member List.not_mem_nil
  | cons first rest inductionHypothesis =>
      obtain ⟨fresh, onceRest⟩ := List.nodup_cons.mp once
      rw [List.flatMap_cons, List.filter_append, filter_links]
      rcases List.mem_cons.mp member with rfl | member
      · have none : ((rest.flatMap links).filter fun link => link.number = key.number) = [] := by
          rw [List.filter_eq_nil_iff]
          intro link inside same
          obtain ⟨other, declared, inLinks⟩ := List.mem_flatMap.mp inside
          have number := (link_owned inLinks).1.symm.trans (of_decide_eq_true same)
          exact fresh (number ▸ List.mem_map_of_mem declared)
        rw [if_pos rfl, none, List.append_nil]
      · rw [if_neg, inductionHypothesis onceRest member, List.nil_append]
        intro same
        exact fresh (same ▸ List.mem_map_of_mem member)

end NumberedKey

namespace Schema

/-- All reported foreign keys are read. -/
theorem readForeignKeys_ok {keys : List NumberedKey} (sound : ∀ key ∈ keys, key.Sound)
    (once : (keys.map NumberedKey.number).Nodup) {rows : List Row}
    (lists : Lists LinkRow (keys.flatMap NumberedKey.links) rows) :
    ∃ groups found, groupRows rows [] = .ok groups ∧
      (groups.mapM fun group => reportedForeignKey group.2) = .ok found ∧
      found.Perm (keys.map NumberedKey.read) := by
  obtain ⟨listed, perm, each⟩ := lists
  obtain ⟨numbers, rowsOf, grouped, collects⟩ := groupRows_ok each
  have numbersPerm : numbers.Perm (keys.map NumberedKey.number) := by
    rw [List.perm_ext_iff_of_nodup collects.once once]
    intro number
    rw [collects.occurs, List.mem_map]
    constructor
    · rintro ⟨link, member, rfl⟩
      obtain ⟨key, declared, inLinks⟩ := List.mem_flatMap.mp (perm.subset member)
      exact ⟨key, declared, (NumberedKey.link_owned inLinks).1.symm⟩
    · rintro ⟨key, declared, rfl⟩
      obtain ⟨link, inLinks⟩ := List.exists_mem_of_ne_nil _ (sound key declared).links_ne_nil
      have member := List.mem_flatMap.mpr ⟨key, declared, inLinks⟩
      exact ⟨link, perm.symm.subset member, (NumberedKey.link_owned inLinks).1⟩
  have eachKey : List.Forall₂ (fun number key => key.number = number ∧ key ∈ keys)
      (keys.map NumberedKey.number) keys := by
    rw [List.forall₂_map_left_iff, List.forall₂_same]
    exact fun key member => ⟨rfl, member⟩
  obtain ⟨ordered, eachNumber, permKeys⟩ := List.perm_comp_forall₂ numbersPerm eachKey
  refine ⟨_, ordered.map NumberedKey.read, grouped, ?_, permKeys.map _⟩
  rw [Outcome.mapM_eq_ok, collected, List.forall₂_map_left_iff, List.forall₂_map_right_iff]
  refine eachNumber.imp fun number key same => ?_
  obtain ⟨rfl, member⟩ := same
  have links := perm.filter fun link => decide (link.number = key.number)
  rw [NumberedKey.filter_flatMap_links once member] at links
  exact NumberedKey.reportedForeignKey_ok (sound key member) links (collects.rows key.number)

/-! ## Agreement -/

theorem nameList_oneOrTuple {names : List Value}
    (texts : ∀ name ∈ names, ∃ content, name = Value.text content) :
    (oneOrTuple names).nameList = .ok names := by
  match names with
  | [] => rfl
  | [name] =>
      obtain ⟨content, rfl⟩ := texts name List.mem_cons_self
      rfl
  | first :: second :: rest => rfl

/-- A foreign key that is read is described as the declared one. -/
theorem read_describes {key : NumberedKey} (sound : key.Sound) :
    NumberedKey.Describes key.read key where
  source := nameList_oneOrTuple sound.sources
  table := rfl
  target := nameList_oneOrTuple sound.targets

theorem described_refers {declared : ForeignKey} {key : NumberedKey} (sound : key.Sound)
    (describes : NumberedKey.Describes declared key) : declared.Refers key.reference := by
  obtain ⟨name, table⟩ := sound.table
  refine ⟨?_, ⟨name, describes.table.trans (congrArg Except.ok table), ?_⟩, ?_⟩
  · rw [describes.source, NumberedKey.reference, ← Value.map_text_toText sound.sources]
  · rw [NumberedKey.reference, table]
    rfl
  · rw [describes.target, NumberedKey.reference, ← Value.map_text_toText sound.targets]

section Described

variable {declared : List ForeignKey} {keys : List NumberedKey}
  (each : List.Forall₂ NumberedKey.Describes declared keys) (sound : ∀ key ∈ keys, key.Sound)

include each sound

theorem described_references :
    List.Forall₂ ForeignKey.Refers declared (keys.map NumberedKey.reference) := by
  induction each with
  | nil => exact .nil
  | cons describes each inductionHypothesis =>
      obtain ⟨soundFirst, soundRest⟩ := List.forall_mem_cons.mp sound
      exact .cons (described_refers soundFirst describes) (inductionHypothesis soundRest)

/-- Foreign keys with different columns refer by different columns. -/
theorem described_singleSourced
    (apart : declared.Pairwise fun first second => first.sourceColumns ≠ second.sourceColumns) :
    Reference.SingleSourced (keys.map NumberedKey.reference) := by
  have differ : keys.Pairwise fun first second =>
      first.reference.source ≠ second.reference.source := by
    induction each with
    | nil => exact .nil
    | @cons first key declared keys describes each inductionHypothesis =>
        obtain ⟨soundFirst, soundRest⟩ := List.forall_mem_cons.mp sound
        obtain ⟨differs, apartRest⟩ := List.pairwise_cons.mp apart
        refine List.pairwise_cons.mpr ⟨?_, inductionHypothesis soundRest apartRest⟩
        intro other member same
        obtain ⟨second, inside, describesToo⟩ := Outcome.standing each member
        refine differs second inside ?_
        rw [(described_refers soundFirst describes).source,
          (described_refers (soundRest other member) describesToo).source, same]
  have symmetric : Std.Symm fun first second : NumberedKey =>
      first.reference.source ≠ second.reference.source := ⟨fun _ _ => Ne.symm⟩
  intro first firstMember second secondMember same
  obtain ⟨key, inside, rfl⟩ := List.mem_map.mp firstMember
  obtain ⟨other, insideToo, rfl⟩ := List.mem_map.mp secondMember
  by_cases equal : key = other
  · rw [equal]
  · exact absurd same (differ.forall inside insideToo equal)

end Described

end Schema

end Tabular
