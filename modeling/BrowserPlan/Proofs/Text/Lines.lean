/-
This file proves what is left of a text that is cut into lines: trimmed lines with something in
them, and none only if the text is blank.

Cutting at separators loses nothing but these. So whatever is true of all separators is true of all
characters of the text if it is true of those in the pieces, and line breaks are blanks.
-/

import BrowserPlan.Proofs.Text.Blank
import BrowserPlan.Text.Lines

namespace BrowserPlan.Text

/-! ### Pieces between separators -/

theorem piecesAt_ne_nil (isSeparator : Char → Bool) (text : Text) :
    piecesAt isSeparator text ≠ [] := by
  cases text with
  | nil => exact List.cons_ne_nil _ _
  | cons char text =>
    rw [piecesAt]
    split_ifs
    · exact List.cons_ne_nil _ _
    · split <;> exact List.cons_ne_nil _ _

theorem piecesAt_cons_of_not {isSeparator : Char → Bool} {char : Char}
    (other : ¬ isSeparator char = true) (text : Text) :
    ∃ piece pieces, piecesAt isSeparator text = piece :: pieces ∧
      piecesAt isSeparator (char :: text) = (char :: piece) :: pieces := by
  obtain ⟨piece, pieces, equal⟩ := List.exists_cons_of_ne_nil (piecesAt_ne_nil isSeparator text)
  exact ⟨piece, pieces, equal, by rw [piecesAt, if_neg other, equal]⟩

/-- No separator is left in a piece. -/
theorem not_isSeparator_of_mem_piecesAt {isSeparator : Char → Bool} {text piece : Text}
    (member : piece ∈ piecesAt isSeparator text) : ∀ char ∈ piece, isSeparator char = false := by
  induction text generalizing piece with
  | nil =>
    obtain rfl := List.mem_singleton.mp member
    exact nofun
  | cons first text inductionHypothesis =>
    by_cases separates : isSeparator first = true
    · rw [piecesAt, if_pos separates] at member
      obtain rfl | later := List.mem_cons.mp member
      · exact nofun
      · exact inductionHypothesis later
    · obtain ⟨front, pieces, equal, whole⟩ := piecesAt_cons_of_not separates text
      rw [equal] at inductionHypothesis
      rw [whole] at member
      obtain rfl | later := List.mem_cons.mp member
      · exact List.forall_mem_cons.mpr ⟨Bool.eq_false_iff.mpr separates,
          inductionHypothesis List.mem_cons_self⟩
      · exact inductionHypothesis (List.mem_cons_of_mem _ later)

/-- Every character is a separator or in a piece. -/
theorem all_piecesAt (isSeparator test : Char → Bool) (text : Text) :
    (piecesAt isSeparator text).all (List.all · test) =
      text.all fun char => isSeparator char || test char := by
  induction text with
  | nil => rfl
  | cons first text inductionHypothesis =>
    rw [List.all_cons, ← inductionHypothesis]
    by_cases separates : isSeparator first = true
    · rw [piecesAt, if_pos separates, separates]
      rfl
    · obtain ⟨front, pieces, equal, whole⟩ := piecesAt_cons_of_not separates text
      rw [whole, equal, Bool.eq_false_iff.mpr separates, List.all_cons, List.all_cons,
        List.all_cons, Bool.false_or, Bool.and_assoc]

/-! ### Lines -/

theorem isBlank_of_isLineBreak {char : Char} (breaks : isLineBreak char = true) :
    isBlank char = true := by
  simp only [isLineBreak, isBlank, Bool.or_eq_true, Bool.and_eq_true, decide_eq_true_eq,
    beq_iff_eq] at breaks ⊢
  omega

/-- A line with something in it, trimmed. -/
structure IsFilledLine (line : Text) : Prop where
  notEmpty : line ≠ []
  trimmed : trim line = line
  unbroken : ∀ char ∈ line, isLineBreak char = false

/-- The lines that are left are trimmed and not empty. -/
theorem isFilledLine_of_mem_filledLines {text line : Text} (member : line ∈ filledLines text) :
    IsFilledLine line := by
  obtain ⟨trimmed, notEmpty⟩ := List.mem_filter.mp member
  obtain ⟨piece, isPiece, rfl⟩ := List.mem_map.mp trimmed
  refine ⟨of_decide_eq_true notEmpty, trim_trim piece, fun char inside => ?_⟩
  exact not_isSeparator_of_mem_piecesAt isPiece char ((trim_isInfix piece).subset inside)

/-- Only of a blank text no line is left. -/
theorem filledLines_eq_nil_iff {text : Text} :
    filledLines text = [] ↔ isAllBlank text = true := by
  have blanks : (fun char => isLineBreak char || isBlank char) = isBlank := by
    funext char
    exact Bool.or_eq_right_iff_imp.mpr isBlank_of_isLineBreak
  rw [isAllBlank, ← blanks, ← all_piecesAt, List.all_eq_true, filledLines, List.filter_eq_nil_iff,
    List.forall_mem_map]
  refine forall₂_congr fun piece _ => ?_
  rw [decide_eq_true_eq, not_not, trim_eq_nil_iff]
  rfl

end BrowserPlan.Text
