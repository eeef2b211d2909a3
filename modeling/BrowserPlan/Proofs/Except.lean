/-
This file proves what comes of computations that may fail when they are done one after the other.

A list of them succeeds if each of them does, and then it gives the list of what they give, in the
same order. So a list that was read is known item by item, and it can be read if every item can.
-/

import Mathlib.Data.List.Forall2

namespace BrowserPlan

theorem exists_of_bind_eq_ok {Fault Value Result : Type} {found : Except Fault Value}
    {next : Value → Except Fault Result} {result : Result} (done : found >>= next = .ok result) :
    ∃ value, found = .ok value ∧ next value = .ok result := by
  cases found with
  | error fault => cases done
  | ok value => exact ⟨value, rfl, done⟩

/-! ### Lists -/

section Lists

variable {Fault Item Value : Type} {answer : Item → Except Fault Value} {items : List Item}
  {values : List Value}

/-- All answers are given just if each is. -/
theorem mapM_eq_ok_iff :
    items.mapM answer = .ok values ↔
      List.Forall₂ (fun item value => answer item = .ok value) items values := by
  induction items generalizing values with
  | nil =>
    rw [List.forall₂_nil_left_iff]
    exact ⟨fun done => (Except.ok.inj done).symm, fun isNil => isNil ▸ rfl⟩
  | cons item items inductionHypothesis =>
    rw [List.mapM_cons]
    constructor
    · intro done
      obtain ⟨value, here, done⟩ := exists_of_bind_eq_ok done
      obtain ⟨others, later, done⟩ := exists_of_bind_eq_ok done
      cases done
      exact .cons here (inductionHypothesis.mp later)
    · intro given
      obtain ⟨value, others, here, later, rfl⟩ := List.forall₂_cons_left_iff.mp given
      rw [here, inductionHypothesis.mpr later]
      rfl

/-- What succeeds for each item, however the items are written, succeeds for a list of them. -/
theorem mapM_map_eq_ok {Source : Type} {write : Source → Item} {read : Source → Value}
    {sources : List Source}
    (answers : ∀ source ∈ sources, answer (write source) = .ok (read source)) :
    (sources.map write).mapM answer = .ok (sources.map read) := by
  rw [mapM_eq_ok_iff, List.forall₂_map_left_iff, List.forall₂_map_right_iff, List.forall₂_same]
  exact answers

theorem exists_mapM_iff :
    (∃ values, items.mapM answer = .ok values) ↔
      ∀ item ∈ items, ∃ value, answer item = .ok value := by
  simp only [mapM_eq_ok_iff]
  induction items with
  | nil => simp
  | cons item items inductionHypothesis =>
    rw [List.forall_mem_cons, ← inductionHypothesis]
    constructor
    · rintro ⟨_, given⟩
      obtain ⟨value, others, here, later, rfl⟩ := List.forall₂_cons_left_iff.mp given
      exact ⟨⟨value, here⟩, others, later⟩
    · rintro ⟨⟨value, here⟩, others, later⟩
      exact ⟨value :: others, .cons here later⟩

theorem mem_iff_of_mapM (given : items.mapM answer = .ok values) {value : Value} :
    value ∈ values ↔ ∃ item ∈ items, answer item = .ok value := by
  induction mapM_eq_ok_iff.mp given with
  | nil => simp
  | cons here later inductionHypothesis =>
    rw [List.mem_cons, List.exists_mem_cons_iff, here, Except.ok.injEq, eq_comm,
      inductionHypothesis (mapM_eq_ok_iff.mpr later)]

end Lists

end BrowserPlan
