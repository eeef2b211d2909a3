/-
This file proves at which positions of a text a search can find something.

Whatever starts with a known word is found where the word stands, so such findings are no more than
there are positions at which it does. A search for the word itself finds all of them, if the word
cannot start inside of itself and so no finding hides another.
-/

import BrowserPlan.Proofs.Text.Search
import BrowserPlan.Text.Word

namespace BrowserPlan.Text

/-! ### Where something is recognised -/

/-- The positions at which something is recognised, in a text that starts at `position`. -/
def positionsFrom (recognise : Text → Option Text) (position : Nat) : Text → List Nat
  | [] => []
  | char :: text =>
      if (recognise (char :: text)).isSome then
        position :: positionsFrom recognise (position + 1) text
      else positionsFrom recognise (position + 1) text

theorem positionsFrom_cons_of_none {recognise : Text → Option Text} {char : Char} {text : Text}
    (miss : recognise (char :: text) = none) (position : Nat) :
    positionsFrom recognise position (char :: text) =
      positionsFrom recognise (position + 1) text := by
  rw [positionsFrom, miss, Option.isSome_none, if_neg Bool.false_ne_true]

theorem positionsFrom_cons_sublist (recognise : Text → Option Text) (position : Nat) (char : Char)
    (text : Text) :
    (positionsFrom recognise (position + 1) text).Sublist
      (positionsFrom recognise position (char :: text)) := by
  rw [positionsFrom]
  split_ifs
  · exact List.sublist_cons_self _ _
  · exact List.Sublist.refl _

/-- Whatever a search finds is found at positions where that is recognised with which it starts. -/
theorem map_fst_findFrom_sublist {Value : Type} {read : Reader Value}
    {recognise : Text → Option Text}
    (starts : ∀ text found, read text = some found → (recognise text).isSome = true)
    (before : Option Char) (position skipped : Nat) (text : Text) :
    ((findFrom (fun _ => read) before position skipped text).map Prod.fst).Sublist
      (positionsFrom recognise position text) := by
  induction text generalizing before position skipped with
  | nil => exact List.Sublist.refl _
  | cons char text inductionHypothesis =>
    have later (skipped : Nat) := (inductionHypothesis (some char) (position + 1) skipped).trans
      (positionsFrom_cons_sublist recognise position char text)
    cases skipped with
    | succ skipped => exact later skipped
    | zero =>
      cases outcome : read (char :: text) with
      | none =>
        rw [findFrom_miss outcome]
        exact later 0
      | some found =>
        rw [findFrom, outcome, positionsFrom, if_pos (starts _ found outcome)]
        exact (inductionHypothesis (some char) (position + 1) _).cons_cons position

/-! ### Where a word stands -/

section Words

variable {first : Char} {more : Text}

/-- A word does not stand where its first character is absent. -/
theorem positionsFrom_append_of_notMem {front : Text} (absent : first ∉ front) (position : Nat)
    (rest : Text) :
    positionsFrom (keyword? (first :: more)) position (front ++ rest) =
      positionsFrom (keyword? (first :: more)) (position + front.length) rest := by
  induction front generalizing position with
  | nil => rfl
  | cons char front inductionHypothesis =>
    obtain ⟨other, absent⟩ := not_or.mp (mt List.mem_cons.mpr absent)
    have miss : keyword? (first :: more) (char :: (front ++ rest)) = none := by
      rw [keyword?, after?, if_neg other, Option.filter_none]
    rw [List.cons_append, positionsFrom_cons_of_none miss, inductionHypothesis absent,
      List.length_cons, Nat.add_assoc, Nat.add_comm 1]

theorem advances_keyword? {word : Text} (notEmpty : word ≠ []) :
    Advances fun _ text => (keyword? word text).map (Prod.mk ()) := by
  intro _ text _ rest read
  obtain ⟨_, found, equal⟩ := Option.map_eq_some_iff.mp read
  cases equal
  exact ⟨word, notEmpty, after?_eq_some_iff.mp (Option.eq_some_of_filter_eq_some found)⟩

/-- A word that cannot start inside of itself is found wherever it stands. -/
theorem map_fst_of_findings (absent : first ∉ more) {before : Option Char} {position : Nat}
    {text : Text} {found : List (Nat × Unit)}
    (findings : Findings (fun _ text => (keyword? (first :: more) text).map (Prod.mk ())) before
      position text found) :
    found.map Prod.fst = positionsFrom (keyword? (first :: more)) position text := by
  induction findings with
  | done => rfl
  | miss fails further inductionHypothesis =>
    rw [inductionHypothesis, positionsFrom_cons_of_none (Option.map_eq_none_iff.mp fails)]
  | hit succeeds further inductionHypothesis =>
    rename_i position passed rest value found
    obtain ⟨_, stands, equal⟩ := Option.map_eq_some_iff.mp succeeds
    cases equal
    have word := after?_eq_some_iff.mp (Option.eq_some_of_filter_eq_some stands)
    obtain rfl : passed = first :: more := List.append_cancel_right word
    rw [List.map_cons, inductionHypothesis, List.cons_append, positionsFrom]
    rw [List.cons_append] at stands
    rw [stands, Option.isSome_some, if_pos rfl, positionsFrom_append_of_notMem absent,
      List.length_cons, Nat.add_assoc, Nat.add_comm 1]

end Words

end BrowserPlan.Text
