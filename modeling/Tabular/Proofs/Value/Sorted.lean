import Mathlib.Data.List.Nodup
import Tabular.Value.Order

/-!
This module sorts entries by whole numbers. Entries with different numbers come out in the same
order, whatever order they came in.
-/

namespace Tabular.Value

variable {α : Type}

/-- An entry with a whole number as it is sorted. -/
def keyed (entry : Int × α) : SortKey × α := (.number (entry.1 * Binary64.unit), entry.2)

theorem keyed_atMost (first second : Int × α) :
    (keyed first).1.atMost (keyed second).1 = true ↔ first.1 ≤ second.1 := by
  have positive : (0 : Int) < Binary64.unit := Int.natCast_pos.mpr (by decide +kernel)
  exact decide_eq_true_iff.trans ⟨fun atMost => Int.le_of_mul_le_mul_right atMost positive,
    fun atMost => Int.mul_le_mul_of_nonneg_right atMost (Int.le_of_lt positive)⟩

/-- Entries stand in the order of their numbers. -/
def InOrder (entries : List (Int × α)) : Prop :=
  entries.Pairwise fun first second => first.1 ≤ second.1

/-- An entry is put in its place among sorted ones. -/
theorem insertSorted_keyed (entry : Int × α) {entries : List (Int × α)}
    (sorted : InOrder entries) :
    ∃ result : List (Int × α), insertSorted (keyed entry) (entries.map keyed) = result.map keyed ∧
      result.Perm (entry :: entries) ∧ InOrder result := by
  induction entries with
  | nil => exact ⟨[entry], rfl, .rfl, List.pairwise_singleton _ _⟩
  | cons other rest inductionHypothesis =>
      obtain ⟨least, sortedRest⟩ := List.pairwise_cons.mp sorted
      rw [List.map_cons, insertSorted]
      by_cases atMost : other.1 ≤ entry.1
      · obtain ⟨result, inserted, perm, sortedResult⟩ := inductionHypothesis sortedRest
        refine ⟨other :: result, ?_, (perm.cons other).trans (.swap entry other rest), ?_⟩
        · rw [if_pos ((keyed_atMost _ _).mpr atMost), inserted, List.map_cons]
        · refine List.pairwise_cons.mpr ⟨fun next member => ?_, sortedResult⟩
          rcases List.mem_cons.mp (perm.mem_iff.mp member) with rfl | member
          · exact atMost
          · exact least next member
      · refine ⟨entry :: other :: rest, ?_, .rfl, ?_⟩
        · rw [if_neg fun holds => atMost ((keyed_atMost _ _).mp holds)]
          rfl
        · refine List.pairwise_cons.mpr ⟨fun next member => ?_, sorted⟩
          have below : entry.1 ≤ other.1 := Int.le_of_lt (Int.lt_of_not_ge atMost)
          rcases List.mem_cons.mp member with rfl | member
          · exact below
          · exact Int.le_trans below (least next member)

theorem foldl_insertSorted (entries before : List (Int × α)) (sorted : InOrder before) :
    ∃ result : List (Int × α), (entries.map keyed).foldl (fun sorted entry => insertSorted entry sorted)
        (before.map keyed) = result.map keyed ∧
      result.Perm (entries ++ before) ∧ InOrder result := by
  induction entries generalizing before with
  | nil => exact ⟨before, rfl, .rfl, sorted⟩
  | cons entry rest inductionHypothesis =>
      obtain ⟨middle, inserted, permMiddle, sortedMiddle⟩ := insertSorted_keyed entry sorted
      obtain ⟨result, folded, perm, sortedResult⟩ := inductionHypothesis middle sortedMiddle
      refine ⟨result, ?_, ?_, sortedResult⟩
      · rw [List.map_cons, List.foldl_cons, inserted, folded]
      · exact perm.trans ((permMiddle.append_left rest).trans List.perm_middle)

/-- An entry with a whole number as it comes to be sorted. -/
def numbered (entry : Int × α) : Value × α := (.int entry.1, entry.2)

theorem mapM_sortKey (entries : List (Int × α)) :
    ((entries.map numbered).mapM fun entry : Value × α =>
      entry.1.sortKey?.map fun key => (key, entry.2)) = some (entries.map keyed) := by
  rw [List.mapM_map]
  exact List.mapM_pure

/-- Entries with whole numbers can be sorted. -/
theorem sortedBy_numbered (entries : List (Int × α)) :
    ∃ result : List (Int × α), sortedBy (entries.map numbered) = .ok (result.map Prod.snd) ∧
      result.Perm entries ∧ InOrder result := by
  match entries with
  | [] => exact ⟨[], rfl, .rfl, .nil⟩
  | [entry] => exact ⟨[entry], rfl, .rfl, List.pairwise_singleton _ _⟩
  | first :: second :: rest =>
      obtain ⟨result, folded, perm, sorted⟩ :=
        foldl_insertSorted (first :: second :: rest) [] .nil
      have numbers : ((first :: second :: rest).map keyed).all (fun entry => entry.1.isNumber) := by
        rw [List.all_map, List.all_eq_true]
        exact fun _ _ => rfl
      have keys := mapM_sortKey (first :: second :: rest)
      rw [List.append_nil] at perm
      refine ⟨result, ?_, perm, sorted⟩
      rw [List.map_cons, List.map_cons] at keys ⊢
      rw [sortedBy, keys]
      · simp only [numbers, Bool.true_or, if_true]
        rw [List.map_nil] at folded
        rw [folded, List.map_map]
        rfl
      · exact nofun
      · exact nofun

/-- The same items with different places stand in one order only. -/
theorem eq_of_inOrder {place : α → Int} {items others : List α} (perm : items.Perm others)
    (inOrder : items.Pairwise fun first second => place first ≤ place second)
    (othersInOrder : others.Pairwise fun first second => place first ≤ place second)
    (once : (others.map place).Nodup) : items = others := by
  refine perm.eq_of_pairwise ?_ inOrder othersInOrder
  intro first second inItems inOthers atMost atLeast
  exact List.inj_on_of_nodup_map once (perm.subset inItems) inOthers
    (Int.le_antisymm atMost atLeast)

end Tabular.Value
