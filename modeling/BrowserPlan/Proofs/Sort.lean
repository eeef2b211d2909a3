/-
This file proves what sorting by a key does to a list.

The sort is stable: whatever part of a list is in order already stays as it is. So the items of one
key keep their order, and since only one list is sorted and has these groups, that is all there is
to know about the sorted list.
-/

import Mathlib.Data.List.Basic

namespace BrowserPlan

variable {Item : Type} {key : Item → Nat} {first second items : List Item}

theorem key_le_trans (key : Item → Nat) (first second third : Item) :
    decide (key first ≤ key second) = true → decide (key second ≤ key third) = true →
      decide (key first ≤ key third) = true := by
  simpa using Nat.le_trans

theorem key_le_total (key : Item → Nat) (first second : Item) :
    (decide (key first ≤ key second) || decide (key second ≤ key first)) = true := by
  simpa using Nat.le_total (key first) (key second)

theorem pairwise_mergeSort_key (key : Item → Nat) (items : List Item) :
    (items.mergeSort fun first second => key first ≤ key second).Pairwise
      fun first second => key first ≤ key second :=
  (List.pairwise_mergeSort (key_le_trans key) (key_le_total key) items).imp
    fun {_ _} le => of_decide_eq_true le

/-- What is in order already stays as it is. -/
theorem filter_mergeSort_key {holds : Item → Bool}
    (sorted : (items.filter holds).Pairwise fun first second => key first ≤ key second) :
    (items.mergeSort fun first second => key first ≤ key second).filter holds =
      items.filter holds := by
  have kept : (items.filter holds).Sublist
      (items.mergeSort fun first second => key first ≤ key second) :=
    List.sublist_mergeSort (key_le_trans key) (key_le_total key)
      (sorted.imp fun le => decide_eq_true le) List.filter_sublist
  have inside := kept.filter holds
  rw [List.filter_filter, funext fun item => Bool.and_self (holds item)] at inside
  have permuted := List.mergeSort_perm items fun first second => key first ≤ key second
  exact (inside.eq_of_length (permuted.filter holds).length_eq.symm).symm

/-! ### Groups of one key -/

theorem mem_of_groups
    (groups : ∀ value, first.filter (fun item => key item = value) =
      second.filter fun item => key item = value)
    {item : Item} (member : item ∈ first) : item ∈ second := by
  have inGroup : item ∈ first.filter fun other => key other = key item :=
    List.mem_filter.mpr ⟨member, decide_eq_true rfl⟩
  rw [groups] at inGroup
  exact List.mem_of_mem_filter inGroup

theorem key_head_le {item other : Item}
    (sorted : (item :: items).Pairwise fun first second => key first ≤ key second)
    (member : other ∈ item :: items) : key item ≤ key other := by
  obtain rfl | further := List.mem_cons.mp member
  · exact Nat.le_refl _
  · exact List.rel_of_pairwise_cons sorted further

/-- Two lists in order are the same if the items of each key are the same. -/
theorem eq_of_groups
    (firstSorted : first.Pairwise fun item other => key item ≤ key other)
    (secondSorted : second.Pairwise fun item other => key item ≤ key other)
    (groups : ∀ value, first.filter (fun item => key item = value) =
      second.filter fun item => key item = value) :
    first = second := by
  induction first generalizing second with
  | nil =>
    refine (List.eq_nil_iff_forall_not_mem.mpr fun item member => ?_).symm
    exact absurd (mem_of_groups (fun value => (groups value).symm) member) List.not_mem_nil
  | cons item items inductionHypothesis =>
    cases second with
    | nil => exact absurd (mem_of_groups groups List.mem_cons_self) List.not_mem_nil
    | cons other others =>
      -- Each head is in the other list, so their keys are the same, and they open one group.
      have here : item ∈ other :: others := mem_of_groups groups List.mem_cons_self
      have there : other ∈ item :: items :=
        mem_of_groups (fun value => (groups value).symm) List.mem_cons_self
      have same : key item = key other :=
        Nat.le_antisymm (key_head_le firstSorted there) (key_head_le secondSorted here)
      have heads := groups (key item)
      rw [List.filter_cons_of_pos (by simp), List.filter_cons_of_pos (by simp [same])] at heads
      obtain rfl : item = other := (List.cons.inj heads).1
      refine congrArg (item :: ·)
        (inductionHypothesis firstSorted.of_cons secondSorted.of_cons fun value => ?_)
      have group := groups value
      by_cases inGroup : key item = value
      · rw [List.filter_cons_of_pos (by simpa using inGroup),
          List.filter_cons_of_pos (by simpa using inGroup)] at group
        exact (List.cons.inj group).2
      · rwa [List.filter_cons_of_neg (by simpa using inGroup),
          List.filter_cons_of_neg (by simpa using inGroup)] at group

/-- A list is what sorting gives if it is in order and has the same items of each key. -/
theorem mergeSort_key_eq_of_groups
    (sorted : first.Pairwise fun item other => key item ≤ key other)
    (groups : ∀ value, first.filter (fun item => key item = value) =
      items.filter fun item => key item = value) :
    (items.mergeSort fun item other => key item ≤ key other) = first := by
  refine eq_of_groups (pairwise_mergeSort_key key items) sorted fun value => ?_
  rw [groups, filter_mergeSort_key]
  refine List.pairwise_of_forall_mem_list fun item member other memberToo => Nat.le_of_eq ?_
  rw [of_decide_eq_true (List.mem_filter.mp member).2,
    of_decide_eq_true (List.mem_filter.mp memberToo).2]

end BrowserPlan
