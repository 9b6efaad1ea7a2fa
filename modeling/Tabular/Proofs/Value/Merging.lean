import Mathlib.Data.List.Induction
import Tabular.Proofs.Value.Identity

/-!
This module shows what becomes of entries that are set one after another. A key keeps its first place
and takes its last value, and entries that are merged first can be set as one mapping.
-/

namespace Tabular

namespace Value

/-- What a key is the same as, it is the same as under every name. -/
theorem same_congr_right {key other : Value} (isKey : key.isKey = true)
    (same : key.same other = true) {value : Value} (valueIsKey : value.isKey = true) :
    value.same key = value.same other := by
  have otherIsKey := ((same_iff isKey).mp same).1
  rw [same_comm valueIsKey isKey, same_congr isKey same, same_comm otherIsKey valueIsKey]

/-- This function gives each key at its first place only. -/
def firstKeys : List Value → List Value
  | [] => []
  | key :: rest => key :: (firstKeys rest).filter fun other => !other.same key

theorem firstKeys_subset (keys : List Value) : firstKeys keys ⊆ keys := by
  induction keys with
  | nil => exact List.Subset.refl _
  | cons key rest inductionHypothesis =>
      exact List.cons_subset_cons _
        (List.Subset.trans (List.filter_subset_self _) inductionHypothesis)

example : firstKeys [.text "a", .int 1, .text "a", .bool true] = [.text "a", .int 1] := by decide

end Value

namespace Keyed

variable {α : Type} {entries first second : Keyed α} {key other : Value} {value : α}

/-- All keys of a mapping can be keys. -/
def AreKeys (entries : Keyed α) : Prop := ∀ key ∈ entries.keys, key.isKey = true

instance (entries : Keyed α) : Decidable entries.AreKeys :=
  inferInstanceAs (Decidable (∀ key ∈ entries.keys, key.isKey = true))

/-- No two keys of a mapping are the same. -/
def Apart (entries : Keyed α) : Prop := entries.keys.Pairwise fun key other => key.same other = false

theorem has_eq_false :
    entries.has key = false ↔ ∀ other ∈ entries.keys, key.same other = false := by
  rw [has, List.any_eq_false, keys, List.forall_mem_map]
  simp only [Bool.not_eq_true]

/-! ## One entry -/

theorem keys_put (entries : Keyed α) (key : Value) (value : α) :
    (entries.put key value).keys = if entries.has key then entries.keys else entries.keys ++ [key] := by
  induction entries with
  | nil => rfl
  | cons entry rest inductionHypothesis =>
      rw [put, has, List.any_cons, ← has]
      cases key.same entry.1 with
      | true => rfl
      | false =>
          rw [if_neg Bool.false_ne_true, Bool.false_or, keys, List.map_cons, ← keys,
            inductionHypothesis]
          split <;> rfl

theorem get?_put (isKey : key.isKey = true) (otherIsKey : other.isKey = true) :
    (entries.put key value).get? other = if other.same key then some value else entries.get? other := by
  induction entries with
  | nil => rw [put, get?_cons]
  | cons entry rest inductionHypothesis =>
      rw [put]
      cases same : key.same entry.1 with
      | true =>
          rw [if_pos rfl, get?_cons, get?_cons, Value.same_congr_right isKey same otherIsKey]
          split <;> rfl
      | false =>
          rw [if_neg Bool.false_ne_true, get?_cons, get?_cons, inductionHypothesis]
          cases found : other.same key with
          | true => rw [Value.same_congr otherIsKey found, same]; rfl
          | false => rfl

theorem has_put (isKey : key.isKey = true) (otherIsKey : other.isKey = true) :
    (entries.put key value).has other = (other.same key || entries.has other) := by
  rw [Bool.eq_iff_iff, has_iff, get?_put isKey otherIsKey, Bool.or_eq_true, has_iff]
  cases other.same key <;> simp

/-- A key that is set again keeps only its last value. -/
theorem put_put (isKey : key.isKey = true) (same : key.same other = true) (replaced : α) :
    (entries.put other replaced).put key value = entries.put other value := by
  induction entries with
  | nil => rw [put, put, put, if_pos same]
  | cons entry rest inductionHypothesis =>
      rw [put, put]
      cases found : other.same entry.1 with
      | true => rw [if_pos rfl, if_pos rfl, put, Value.same_congr isKey same, if_pos found]
      | false =>
          rw [if_neg Bool.false_ne_true, if_neg Bool.false_ne_true, put, Value.same_congr isKey same,
            if_neg (by rw [found]; exact Bool.false_ne_true), inductionHypothesis]

/-- A key that is present keeps its place, whatever is set before. -/
theorem put_comm (isKey : key.isKey = true) (otherIsKey : other.isKey = true)
    (apart : key.same other = false) (present : entries.has key = true) (another : α) :
    (entries.put other another).put key value = (entries.put key value).put other another := by
  induction entries with
  | nil => exact absurd present Bool.false_ne_true
  | cons entry rest inductionHypothesis =>
      rw [has, List.any_cons, ← has] at present
      rw [put, put]
      cases found : key.same entry.1 with
      | true =>
          have differs : other.same entry.1 = false := by
            rw [← Value.same_congr_right isKey found otherIsKey, Value.same_comm otherIsKey isKey,
              apart]
          simp [put, found, differs]
      | false =>
          rw [found, Bool.false_or] at present
          cases same : other.same entry.1 with
          | true => simp [put, found, same]
          | false => simp [put, found, same, inductionHypothesis present]

/-! ## Many entries -/

theorem merge_append (entries first second : Keyed α) :
    entries.merge (first ++ second) = (entries.merge first).merge second :=
  List.foldl_append

theorem put_merge (isKey : key.isKey = true) (areKeys : second.AreKeys)
    (apart : ∀ other ∈ second.keys, key.same other = false) (present : first.has key = true) :
    (first.merge second).put key value = (first.put key value).merge second := by
  induction second generalizing first with
  | nil => rfl
  | cons entry rest inductionHypothesis =>
      obtain ⟨entryIsKey, areKeysRest⟩ := List.forall_mem_cons.mp areKeys
      obtain ⟨differs, apartRest⟩ := List.forall_mem_cons.mp apart
      have present' : (first.put entry.1 entry.2).has key = true := by
        rw [has_put entryIsKey isKey, present, Bool.or_true]
      exact (inductionHypothesis areKeysRest apartRest present').trans
        (congrArg (merge · rest) (put_comm isKey entryIsKey differs present _))

/-- An entry can be set in a mapping or after it. -/
theorem merge_put (isKey : key.isKey = true) (areKeys : entries.AreKeys) (apart : entries.Apart) :
    first.merge (entries.put key value) = (first.merge entries).put key value := by
  induction entries generalizing first with
  | nil => rfl
  | cons entry rest inductionHypothesis =>
      obtain ⟨entryIsKey, areKeysRest⟩ := List.forall_mem_cons.mp areKeys
      obtain ⟨differs, apartRest⟩ := List.pairwise_cons.mp apart
      rw [put]
      cases same : key.same entry.1 with
      | true =>
          have present : (first.put entry.1 entry.2).has key = true := by
            rw [has_put entryIsKey isKey, same, Bool.true_or]
          have differs : ∀ other ∈ Keyed.keys rest, key.same other = false := fun other member =>
            (Value.same_congr isKey same other).trans (differs other member)
          refine Eq.trans ?_ (put_merge isKey areKeysRest differs present).symm
          exact congrArg (merge · rest) (put_put isKey same _).symm
      | false => exact inductionHypothesis areKeysRest apartRest

theorem areKeys_put (areKeys : entries.AreKeys) (isKey : key.isKey = true) :
    (entries.put key value).AreKeys := by
  rw [AreKeys, keys_put]
  split
  · exact areKeys
  · exact List.forall_mem_append.mpr ⟨areKeys, List.forall_mem_singleton.mpr isKey⟩

theorem apart_put (areKeys : entries.AreKeys) (isKey : key.isKey = true) (apart : entries.Apart) :
    (entries.put key value).Apart := by
  rw [Apart, keys_put]
  split
  · exact apart
  · next absent =>
      refine List.pairwise_append.mpr ⟨apart, List.pairwise_singleton _ _, ?_⟩
      intro other member added addedMember
      obtain rfl := List.mem_singleton.mp addedMember
      rw [Value.same_comm (areKeys other member) isKey]
      exact has_eq_false.mp (eq_false_of_ne_true absent) other member

theorem areKeys_append {entry : Value × α} (areKeys : (entries ++ [entry]).AreKeys) :
    entries.AreKeys ∧ entry.1.isKey = true := by
  rw [AreKeys, Keyed.keys, List.map_append, List.forall_mem_append] at areKeys
  exact ⟨areKeys.1, areKeys.2 _ List.mem_cons_self⟩

/-- Entries that are set one after another give a mapping without repeated keys. -/
theorem ofEntries_keys (areKeys : entries.AreKeys) :
    (ofEntries entries).AreKeys ∧ (ofEntries entries).Apart := by
  induction entries using List.reverseRecOn with
  | nil => exact ⟨List.forall_mem_nil _, List.Pairwise.nil⟩
  | append_singleton rest entry inductionHypothesis =>
      obtain ⟨areKeysRest, isKey⟩ := areKeys_append areKeys
      obtain ⟨found, apart⟩ := inductionHypothesis areKeysRest
      rw [ofEntries, merge_append]
      exact ⟨areKeys_put found isKey, apart_put found isKey apart⟩

/-- Entries can be merged into a mapping first. -/
theorem merge_ofEntries (areKeys : entries.AreKeys) :
    first.merge (ofEntries entries) = first.merge entries := by
  induction entries using List.reverseRecOn with
  | nil => rfl
  | append_singleton rest entry inductionHypothesis =>
      obtain ⟨areKeysRest, isKey⟩ := areKeys_append areKeys
      obtain ⟨found, apart⟩ := ofEntries_keys areKeysRest
      rw [ofEntries, merge_append, merge_append, ← inductionHypothesis areKeysRest]
      exact merge_put isKey found apart

/-- A key takes its last value. -/
theorem get?_merge_last (areKeys : second.AreKeys) (isKey : key.isKey = true) :
    (first.merge second).get? key = (Keyed.get? second.reverse key).or (first.get? key) := by
  induction second generalizing first with
  | nil => rfl
  | cons entry rest inductionHypothesis =>
      obtain ⟨entryIsKey, areKeysRest⟩ := List.forall_mem_cons.mp areKeys
      rw [merge, List.foldl_cons, ← merge, inductionHypothesis areKeysRest, get?_put entryIsKey isKey,
        List.reverse_cons, get?_append, get?_cons, Option.or_assoc]
      split <;> rfl

/-- A key keeps its first place. -/
theorem keys_merge (areKeys : second.AreKeys) :
    (first.merge second).keys =
      first.keys ++ (Value.firstKeys second.keys).filter fun key => !first.has key := by
  induction second generalizing first with
  | nil => exact (List.append_nil _).symm
  | cons entry rest inductionHypothesis =>
      obtain ⟨entryIsKey, areKeysRest⟩ := List.forall_mem_cons.mp areKeys
      have later : (Value.firstKeys (keys rest)).filter
          (fun key => !(first.put entry.1 entry.2).has key) =
          ((Value.firstKeys (keys rest)).filter fun key => !key.same entry.1).filter
            fun key => !first.has key := by
        rw [List.filter_filter]
        refine List.filter_congr fun key member => ?_
        rw [has_put entryIsKey (areKeysRest key (Value.firstKeys_subset _ member)), Bool.not_or,
          Bool.and_comm]
      have split : Value.firstKeys (keys (entry :: rest)) =
          entry.1 :: (Value.firstKeys (keys rest)).filter fun key => !key.same entry.1 := rfl
      rw [merge, List.foldl_cons, ← merge, inductionHypothesis areKeysRest, later, keys_put, split,
        List.filter_cons]
      cases first.has entry.1 with
      | true => rfl
      | false => exact List.append_assoc ..

/-- A mapping has each key of some entries at its first place and with its last value. -/
structure Merges (entries merged : Keyed α) : Prop where
  keys : merged.keys = Value.firstKeys entries.keys
  values : ∀ key, key.isKey = true → merged.get? key = Keyed.get? entries.reverse key

theorem ofEntries_merges (areKeys : entries.AreKeys) : Merges entries (ofEntries entries) := by
  constructor
  · rw [ofEntries, keys_merge areKeys]
    exact List.filter_eq_self.mpr fun key _ => rfl
  · intro key isKey
    rw [ofEntries, get?_merge_last areKeys isKey]
    exact Option.or_none

end Keyed

end Tabular
