/-
This file proves that masking changes how a text shows and nothing else.

Each round of the loop appends a piece as long as the part of the text that it passes over, and the
mask has a say in the piece alone. So everything but the masked text is the same under every mask,
and the masked text lines up with the text, character by character. What shows of a character is
told by the paint of its sign, and so the full mask hides what either of the two others hides.
-/

import BrowserPlan.Proofs.Java.LineEnd
import BrowserPlan.Proofs.Java.Segment
import Mathlib.Data.List.Forall2

namespace BrowserPlan.Java

/-! ### Masks -/

/-- The mask that hides nothing. -/
def Mask.clear : Mask :=
  ⟨false, false⟩

/-- The mask that leaves code and comments. -/
def Mask.literalsOnly : Mask :=
  ⟨true, false⟩

/-! ### One character -/

/-- What may show of a character: a newline stays one and nothing else becomes one, and any other
character stays or is blanked out. -/
def MayShow (shown char : Char) : Prop :=
  (shown = '\n' ↔ char = '\n') ∧ (shown = char ∨ shown = ' ')

theorem Cell.mayShow (mask : Mask) (cell : Cell) : MayShow (cell.shown mask) cell.char := by
  rw [Cell.shown]
  split_ifs with hidden
  · have notNewline : cell.char ≠ '\n' := by
      simpa using (Bool.and_eq_true_iff.mp hidden).2
    exact ⟨iff_of_false (by decide) notNewline, .inr rfl⟩
  · exact ⟨Iff.rfl, .inl rfl⟩

theorem Cell.shown_clear (cell : Cell) : cell.shown .clear = cell.char := by
  obtain ⟨char, region, paint⟩ := cell
  cases paint <;> rfl

/-- The full mask shows a character as the mask of literals does if that one hides it, and as the
mask of comments does if not. -/
theorem Cell.shown_full (cell : Cell) :
    cell.shown .full =
      if cell.shown .literalsOnly ≠ cell.char then cell.shown .literalsOnly
      else cell.shown .commentsOnly := by
  obtain ⟨char, region, paint⟩ := cell
  cases paint with
  | plain | comment => exact (if_neg fun differs => differs rfl).symm
  | literal =>
    split_ifs with differs
    · rfl
    · exact not_not.mp differs

/-! ### The whole text -/

theorem getElem?_masked (mask : Mask) (text : Text) (position : Nat) :
    (masked mask text)[position]? = (cells text)[position]?.map (Cell.shown mask) := by
  rw [masked_eq, List.getElem?_map]

theorem getElem?_eq_cells (text : Text) (position : Nat) :
    text[position]? = (cells text)[position]?.map Cell.char := by
  rw [← List.getElem?_map, map_char_cells]

/-- The masked text lines up with the text. -/
theorem forall₂_masked (mask : Mask) (text : Text) :
    List.Forall₂ MayShow (masked mask text) text := by
  have aligned : List.Forall₂ MayShow ((cells text).map (Cell.shown mask))
      ((cells text).map Cell.char) := by
    rw [List.forall₂_map_left_iff, List.forall₂_map_right_iff, List.forall₂_same]
    exact fun cell _ => cell.mayShow mask
  rwa [map_char_cells, ← masked_eq] at aligned

/-- With nothing to hide the text is shown as it is. -/
theorem masked_clear (text : Text) : masked .clear text = text := by
  rw [masked_eq, List.map_congr_left fun cell _ => cell.shown_clear]
  exact map_char_cells text

/-- Hiding both is hiding literals, and comments wherever that changes nothing. -/
theorem getElem?_masked_full (text : Text) (position : Nat) :
    (masked .full text)[position]? =
      if (masked .literalsOnly text)[position]? ≠ text[position]? then
        (masked .literalsOnly text)[position]?
      else (masked .commentsOnly text)[position]? := by
  simp only [getElem?_masked, getElem?_eq_cells text]
  cases (cells text)[position]? with
  | none => rfl
  | some cell =>
    simp only [Option.map_some, ne_eq, Option.some.injEq, cell.shown_full]
    exact apply_ite some _ _ _

/-- The depth counts the braces that are shown. -/
theorem depth_eq_surplus (text : Text) :
    (scan .full text).depth = surplus (masked .full text) := by
  rw [depth_scan, balance_eq_count]
  rfl

/-- The lowest depth is the lowest over all front parts of what shows, the empty one included. -/
theorem lowest_eq_foldr_surplus (text : Text) :
    (scan .full text).lowest = ((masked .full text).inits.map surplus).foldr min 0 := by
  rw [lowest_scan, lowestDepth_eq_foldr]

/-- What is masked makes no difference to what the loop finds out. The masked text lines up with
the text, newline for newline, and is the text itself where nothing is masked; what both kinds of
contents are hidden from is composed of what either is hidden from; and the depths are those of
the braces that show when both are hidden. -/
theorem masking_keeps_geometry (text : Text) :
    (∀ mask other : Mask, scan mask text = { scan other text with masked := masked mask text }) ∧
      (∀ mask : Mask, List.Forall₂ MayShow (masked mask text) text) ∧
      masked .clear text = text ∧
      (∀ position : Nat,
        (masked .full text)[position]? =
          if (masked .literalsOnly text)[position]? ≠ text[position]? then
            (masked .literalsOnly text)[position]?
          else (masked .commentsOnly text)[position]?) ∧
      (scan .full text).depth = surplus (masked .full text) ∧
      (scan .full text).lowest = ((masked .full text).inits.map surplus).foldr min 0 :=
  ⟨fun mask other => scan_eq_of_other_mask mask other text,
    fun mask => forall₂_masked mask text, masked_clear text, getElem?_masked_full text,
    depth_eq_surplus text, lowest_eq_foldr_surplus text⟩

end BrowserPlan.Java
