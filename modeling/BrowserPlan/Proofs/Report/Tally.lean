/-
This file proves what the tally of the categories holds in the end: for each category, in order,
the number of its cases.

A case adds one to its own category and leaves the others alone. So from any tally on, each
category gains as many as there are cases of it.
-/

import BrowserPlan.Report.Rule
import Mathlib.Data.List.Basic

namespace BrowserPlan.Report

/-- The number of cases of a category. -/
def countIn {Id : Type} (category : Category) (entries : List (CaseEntry Id)) : Nat :=
  entries.countP fun entry => entry.category? = some category

theorem countIn_cons {Id : Type} (category : Category) (entry : CaseEntry Id)
    (entries : List (CaseEntry Id)) :
    countIn category (entry :: entries) =
      countIn category entries + if entry.category? = some category then 1 else 0 := by
  rw [countIn, List.countP_cons, countIn]
  simp only [decide_eq_true_eq]

/-- One case adds one to its category. -/
theorem Tally.count_eq {Id : Type} (tally : Tally) (entry : CaseEntry Id) :
    tally.count entry =
      tally.map fun (category, count) =>
        (category, count + if entry.category? = some category then 1 else 0) := by
  rw [count]
  cases entry.category? with
  | none => exact (List.map_id tally).symm
  | some met =>
    refine List.map_congr_left fun (category, count) _ => ?_
    by_cases same : category = met
    · simp [same]
    · simp [same, Ne.symm same]

/-- Cases add to each category as many as there are of it. -/
theorem Tally.foldl_count {Id : Type} (entries : List (CaseEntry Id)) (tally : Tally) :
    entries.foldl Tally.count tally =
      tally.map fun (category, count) => (category, count + countIn category entries) := by
  induction entries generalizing tally with
  | nil => exact (List.map_id tally).symm
  | cons entry entries inductionHypothesis =>
    rw [List.foldl_cons, inductionHypothesis, Tally.count_eq, List.map_map]
    refine List.map_congr_left fun (category, count) _ => ?_
    show (category, count + _ + countIn category entries) = (category, count + countIn category _)
    rw [countIn_cons, Nat.add_comm (countIn category entries), Nat.add_assoc]

/-- In the end the tally holds the number of cases of each category. -/
theorem tallyOf_eq {Id : Type} (entries : List (CaseEntry Id)) :
    tallyOf entries = Category.all.map fun category => (category, countIn category entries) := by
  rw [tallyOf, Tally.foldl_count, Tally.start, List.map_map]
  exact List.map_congr_left fun category _ => congrArg (Prod.mk category) (Nat.zero_add _)

end BrowserPlan.Report
