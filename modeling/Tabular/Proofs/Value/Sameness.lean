import Mathlib.Data.List.Nodup
import Tabular.Value

/-!
This module says when values of certain kinds are true or the same, and how mappings find, set and
merge their entries.
-/

namespace Tabular

namespace Value

@[simp] theorem same_text_text (first second : String) :
    same (.text first) (.text second) = (first == second) := by
  rw [same]

@[simp] theorem same_int_int (first second : Int) :
    same (.int first) (.int second) = (first == second) := by
  rw [same, sameNumber] <;> simp [integer?]

/-- Only the same text is the same as a text. -/
theorem same_text_iff (content : String) (value : Value) :
    same (.text content) value = true ↔ value = .text content := by
  constructor
  · intro equal
    cases value <;> simp_all [same, sameNumber, integer?]
  · rintro rfl
    simp

/-- Only a text is the same as a text. -/
theorem same_iff_text (content : String) (value : Value) :
    same value (.text content) = true ↔ value = .text content := by
  constructor
  · intro equal
    cases value <;> simp_all [same, sameNumber, integer?]
  · rintro rfl
    simp

/-! A text or a container is true when it is not empty. -/

/-- A text counts as true unless it is empty. -/
theorem isTrue_text {content : String} : (Value.text content).isTrue = true ↔ content ≠ "" := by
  simp [isTrue]

/-- So does a list. -/
theorem isTrue_list {items : List Value} : (Value.list items).isTrue = true ↔ items ≠ [] := by
  simp [isTrue]

theorem isTrue_tuple {items : List Value} : (Value.tuple items).isTrue = true ↔ items ≠ [] := by
  simp [isTrue]

/-- So does a mapping. -/
theorem isTrue_map {entries : List (Value × Value)} :
    (Value.map entries).isTrue = true ↔ entries ≠ [] := by
  simp [isTrue]

/-- Only the same texts are the same as texts. -/
theorem sameItems_texts {items texts : List Value}
    (each : ∀ text ∈ texts, ∃ content, text = Value.text content) :
    sameItems items texts = true ↔ items = texts := by
  induction texts generalizing items with
  | nil => cases items <;> simp [sameItems]
  | cons text rest inductionHypothesis =>
      obtain ⟨⟨content, rfl⟩, eachRest⟩ := List.forall_mem_cons.mp each
      cases items with
      | nil => simp [sameItems]
      | cons item others =>
          rw [sameItems, Bool.and_eq_true, same_iff_text, inductionHypothesis eachRest,
            List.cons.injEq]

end Value

namespace Keyed

variable {α : Type}

/-- The first entry with a key is found. -/
theorem get?_cons (entry : Value × α) (rest : Keyed α) (key : Value) :
    get? (entry :: rest) key = if key.same entry.1 then some entry.2 else get? rest key := by
  unfold get?
  rw [List.find?_cons]
  cases key.same entry.1 <;> rfl

/-- A mapping gives a value for each key that it has. -/
theorem has_iff {entries : Keyed α} {key : Value} :
    entries.has key = true ↔ ∃ value, entries.get? key = some value := by
  rw [← Option.isSome_iff_exists, get?, Option.isSome_map, List.find?_isSome, has, List.any_eq_true]

/-- Nothing is found under a key that is not there. -/
theorem get?_eq_none {entries : Keyed α} {key : Value} :
    entries.get? key = none ↔ entries.has key = false := by
  rw [← Bool.not_eq_true, has_iff, ← Option.isSome_iff_exists, Option.not_isSome_iff_eq_none]

/-- What is found in two mappings is found in the first, or else in the second. -/
theorem get?_append (first second : Keyed α) (key : Value) :
    get? (first ++ second) key = (first.get? key).or (second.get? key) := by
  rw [get?, List.find?_append, Option.map_or, get?, get?]

/-- A mapping has a text as a key when the text is among its keys. -/
theorem has_text_iff {entries : Keyed α} {name : String} :
    entries.has (.text name) = true ↔ .text name ∈ entries.keys := by
  rw [has, List.any_eq_true, keys, List.mem_map]
  simp only [Value.same_text_iff]

/-- Mappings with the same text keys in any order have the same keys. -/
theorem sameKeys_perm {β : Type} {first : Keyed α} {second : Keyed β}
    (perm : first.keys.Perm second.keys) (texts : ∀ key ∈ first.keys, ∃ name, key = Value.text name) :
    sameKeys first second = true := by
  rw [sameKeys, Bool.and_eq_true, List.all_eq_true, List.all_eq_true]
  constructor
  · intro entry member
    have key := List.mem_map_of_mem (f := Prod.fst) member
    obtain ⟨name, text⟩ := texts entry.1 key
    rw [text, has_text_iff, ← text]
    exact perm.subset key
  · intro entry member
    have key := perm.symm.subset (List.mem_map_of_mem (f := Prod.fst) member)
    obtain ⟨name, text⟩ := texts entry.1 key
    rw [text, has_text_iff, ← text]
    exact key

/-- The entry of a text is found where no two entries have the same key. -/
theorem get?_of_mem {entries : Keyed α} {name : String} {value : α}
    (distinct : entries.keys.Nodup) (member : (.text name, value) ∈ entries) :
    entries.get? (.text name) = some value := by
  induction entries with
  | nil => exact absurd member List.not_mem_nil
  | cons entry rest inductionHypothesis =>
      obtain ⟨fresh, distinctRest⟩ := List.nodup_cons.mp distinct
      rw [get?_cons]
      rcases List.mem_cons.mp member with rfl | member
      · rw [if_pos (by simp)]
      · rw [if_neg, inductionHypothesis distinctRest member]
        intro same
        rw [Value.same_text_iff] at same
        exact fresh (same ▸ List.mem_map_of_mem (f := Prod.fst) member)

/-- A key that no entry has gets an entry at the end. -/
theorem put_absent {entries : Keyed α} {key : Value}
    (absent : ∀ other ∈ entries.keys, key.same other = false) (value : α) :
    entries.put key value = entries ++ [(key, value)] := by
  induction entries with
  | nil => rfl
  | cons entry rest inductionHypothesis =>
      obtain ⟨differs, absentRest⟩ := List.forall_mem_cons.mp absent
      have differs : key.same entry.1 = false := differs
      rw [put, differs, inductionHypothesis absentRest]
      rfl

/-- An entry that other entries do not repeat is put behind those before it. -/
theorem put_fresh {before rest : Keyed α} {name : String} {value : α}
    (once : keys (before ++ [(.text name, value)] ++ rest) |>.Nodup) :
    before.put (.text name) value = before ++ [(.text name, value)] := by
  refine put_absent (fun other inside => ?_) value
  rw [← Bool.not_eq_true, Value.same_text_iff]
  rintro rfl
  rw [keys, List.map_append, List.map_append] at once
  exact (List.nodup_append.mp once.of_append_left).2.2 _ inside _ List.mem_cons_self rfl

/-- Entries whose keys differ are kept as they are. -/
theorem merge_apart {first second : Keyed α}
    (apart : (first ++ second).keys.Pairwise fun key other => other.same key = false) :
    first.merge second = first ++ second := by
  induction second generalizing first with
  | nil => exact (List.append_nil first).symm
  | cons entry rest inductionHypothesis =>
      have grouped : first ++ entry :: rest = (first ++ [entry]) ++ rest := by simp
      have absent : ∀ other ∈ first.keys, entry.1.same other = false := by
        intro other member
        rw [keys, List.map_append, List.pairwise_append] at apart
        exact apart.2.2 other member entry.1 List.mem_cons_self
      rw [grouped] at apart ⊢
      rw [← inductionHypothesis apart, merge, List.foldl_cons, put_absent absent]
      rfl

theorem put_ne_nil (entries : Keyed α) (key : Value) (value : α) : entries.put key value ≠ [] := by
  cases entries with
  | nil => exact List.cons_ne_nil _ _
  | cons entry rest =>
      rw [put]
      split <;> exact List.cons_ne_nil _ _

/-- No entry is lost when two mappings are merged. -/
theorem merge_eq_nil {first second : Keyed α} :
    first.merge second = [] ↔ first = [] ∧ second = [] := by
  constructor
  · intro empty
    rcases List.eq_nil_or_concat second with rfl | ⟨rest, entry, rfl⟩
    · exact ⟨empty, rfl⟩
    · rw [merge, List.concat_eq_append, List.foldl_append] at empty
      exact absurd empty (put_ne_nil _ _ _)
  · rintro ⟨rfl, rfl⟩
    rfl

/-- Entries with different texts as keys are kept as they are. -/
theorem ofEntries_texts {entries : Keyed α}
    (texts : ∀ key ∈ entries.keys, ∃ name, key = Value.text name) (distinct : entries.keys.Nodup) :
    ofEntries entries = entries := by
  refine merge_apart (distinct.imp_of_mem fun {key other} member _ differ => ?_)
  obtain ⟨name, rfl⟩ := texts key member
  rw [← Bool.not_eq_true, Value.same_iff_text]
  exact fun same => differ same.symm

/-- Setting a key leaves the others alone. -/
theorem get?_put_other {entries : Keyed α} {name other : String} (differ : name ≠ other)
    (value : α) :
    (entries.put (.text other) value).get? (.text name) = entries.get? (.text name) := by
  induction entries with
  | nil =>
      rw [put, get?_cons, Value.same_text_text, beq_false_of_ne differ, if_neg Bool.false_ne_true]
  | cons entry rest inductionHypothesis =>
      rw [put]
      split
      · next same =>
          obtain same := (Value.same_text_iff _ _).mp same
          rw [get?_cons, get?_cons, same, Value.same_text_text, beq_false_of_ne differ]
          rfl
      · rw [get?_cons, get?_cons, inductionHypothesis]

/-- A key that was set has its new value. -/
theorem get?_put_same (entries : Keyed α) (name : String) (value : α) :
    (entries.put (.text name) value).get? (.text name) = some value := by
  induction entries with
  | nil => rw [put, get?_cons, Value.same_text_text, beq_self_eq_true, if_pos rfl]
  | cons entry rest inductionHypothesis =>
      rw [put]
      split
      · next same => rw [get?_cons, if_pos same]
      · next differs => rw [get?_cons, if_neg differs, inductionHypothesis]

/-- A mapping keeps the entries that the other one does not have. -/
theorem get?_merge_absent {first second : Keyed α} {name : String}
    (texts : ∀ key ∈ second.keys, ∃ content, key = Value.text content)
    (absent : .text name ∉ second.keys) :
    (first.merge second).get? (.text name) = first.get? (.text name) := by
  induction second generalizing first with
  | nil => rfl
  | cons entry rest inductionHypothesis =>
      obtain ⟨⟨content, text⟩, textsRest⟩ := List.forall_mem_cons.mp texts
      obtain ⟨differs, absentRest⟩ := not_or.mp (mt List.mem_cons.mpr absent)
      rw [merge, List.foldl_cons]
      refine (inductionHypothesis textsRest absentRest).trans ?_
      rw [text]
      exact get?_put_other (fun same => differs (by rw [text, same])) entry.2

/-- A mapping that is merged into another one counts more. -/
theorem get?_merge {first second : Keyed α}
    (texts : ∀ key ∈ second.keys, ∃ content, key = Value.text content) (once : second.keys.Nodup)
    (name : String) :
    (first.merge second).get? (.text name) =
      (second.get? (.text name)).or (first.get? (.text name)) := by
  induction second generalizing first with
  | nil => rfl
  | cons entry rest inductionHypothesis =>
      obtain ⟨⟨content, text⟩, textsRest⟩ := List.forall_mem_cons.mp texts
      obtain ⟨fresh, onceRest⟩ := List.nodup_cons.mp once
      obtain ⟨key, value⟩ := entry
      obtain rfl : key = .text content := text
      rw [merge, List.foldl_cons, get?_cons, Value.same_text_text, ← merge]
      by_cases same : name = content
      · obtain rfl := same
        rw [get?_merge_absent textsRest fresh, get?_put_same, beq_self_eq_true, if_pos rfl]
        rfl
      · rw [inductionHypothesis textsRest onceRest, get?_put_other same, beq_false_of_ne same,
          if_neg Bool.false_ne_true]

end Keyed

end Tabular
