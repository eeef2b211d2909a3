/-
This file proves that the plain screen shows plain lines as they are.

Showing a text takes tags out, puts pictures in, drops characters that move the cursor and expands
tabs. Each of these starts at a character of its own, so a text without such characters passes
through all of them. A colon alone opens no name of a picture, since there is none to close it.
-/

import BrowserPlan.Command.Markup
import BrowserPlan.Proofs.Command.Screen

namespace BrowserPlan

/-! ### Pictures -/

namespace Emoji

variable (picture? : Text → Option Text)

theorem codeAt?_of_not_mem {text : Text} (noColon : ':' ∉ text) : codeAt? text = none :=
  if_neg fun closed => noColon (List.mem_of_mem_drop (List.mem_of_head? closed))

/-- It takes two colons to name a picture. -/
theorem replaceFrom_of_count {text : Text} (few : text.count ':' ≤ 1) :
    replaceFrom picture? 0 text = text := by
  induction text with
  | nil => rfl
  | cons char text inductionHypothesis =>
    rw [replaceFrom]
    by_cases colon : char = ':'
    · obtain rfl := colon
      rw [List.count_cons_self] at few
      have noColon : ':' ∉ text := List.count_eq_zero.mp (by omega)
      rw [if_pos rfl, codeAt?_of_not_mem noColon, inductionHypothesis (by omega)]
    · rw [List.count_cons_of_ne colon] at few
      rw [if_neg colon, inductionHypothesis few]

end Emoji

/-! ### Tabs -/

theorem Text.expandTabs_of_not_mem {text : Text} (noTab : '\t' ∉ text) (column : Nat) :
    expandTabs column text = text := by
  induction text generalizing column with
  | nil => rfl
  | cons char text inductionHypothesis =>
    obtain ⟨here, later⟩ := not_or.mp (mt List.mem_cons.mpr noTab)
    rw [expandTabs, if_neg (Ne.symm here)]
    split <;> rw [inductionHypothesis later]

namespace Markup

/-! ### Tags -/

/-- Whether a character is shown as it is wherever it stands, but for a colon. -/
def isCalm (char : Char) : Bool :=
  char ≠ '[' && char ≠ '\\' && char ≠ '\t' && !movesCursor char

/-- A calm character opens no tag, escapes nothing and does not move the cursor. -/
theorem isCalm_iff {char : Char} :
    isCalm char = true ↔
      char ≠ '[' ∧ char ≠ '\\' ∧ char ≠ '\t' ∧ movesCursor char = false := by
  simp [isCalm, and_assoc]

theorem not_mem_of_isCalm {text : Text} (calm : ∀ char ∈ text, isCalm char = true) {char : Char}
    (restless : isCalm char = false) : char ∉ text :=
  fun member => Bool.noConfusion (restless.symm.trans (calm char member))

/-- Calm text has no tags. -/
theorem split_of_isCalm {text : Text} (calm : ∀ char ∈ text, isCalm char = true)
    (position : Nat) : split 0 position 0 text = (text, []) := by
  induction text generalizing position with
  | nil => rfl
  | cons char text inductionHypothesis =>
    obtain ⟨here, later⟩ := List.forall_mem_cons.mp calm
    obtain ⟨noBracket, noBackslash, _⟩ := isCalm_iff.mp here
    rw [split, if_neg noBackslash, if_neg noBracket, inductionHypothesis later]
    rfl

theorem unescape_of_not_mem {text : Text} (noBackslash : '\\' ∉ text) : unescape text = text := by
  induction text with
  | nil => rfl
  | cons char text inductionHypothesis =>
    obtain ⟨here, later⟩ := not_or.mp (mt List.mem_cons.mpr noBackslash)
    rw [unescape, inductionHypothesis later, if_neg]
    simp [Ne.symm here]

/-- A calm text in which no picture is named is shown as it is. -/
theorem show?_of_isCalm (picture? : Text → Option Text) {text : Text}
    (calm : ∀ char ∈ text, isCalm char = true) (few : text.count ':' ≤ 1) :
    show? picture? text = .ok text := by
  have plain : showPlain picture? text = text := by
    rw [showPlain, unescape_of_not_mem (not_mem_of_isCalm calm rfl), Emoji.replace,
      Emoji.replaceFrom_of_count picture? few, List.filter_eq_self]
    intro char member
    rw [(isCalm_iff.mp (calm char member)).2.2.2]
    rfl
  have shown : showPieces picture? [] (pieces text) = .ok text := by
    rw [pieces, split_of_isCalm calm, showPieces, plain]
    exact congrArg Except.ok (List.append_nil text)
  rw [show?, shown]
  exact congrArg Except.ok (Text.expandTabs_of_not_mem (not_mem_of_isCalm calm rfl) 0)

/-! ### Plain lines -/

/-- Plain characters are calm. -/
theorem isCalm_of_isPlainOnScreen {char : Char} (isPlain : isPlainOnScreen char = true) :
    isCalm char = true := by
  have range := toNat_of_isPlainOnScreen isPlain
  refine isCalm_iff.mpr ⟨?_, ?_, ?_, ?_⟩
  · rintro rfl
    exact absurd range (by decide)
  · rintro rfl
    exact absurd range (by decide)
  · rintro rfl
    exact absurd range (by decide)
  · simp [movesCursor]
    omega

/-- A screen that knows tags and names of pictures keeps to its manual. -/
theorem isDocumented_screen (picture? : Text → Option Text) :
    (screen picture?).IsDocumented where
  line {line} isPlain := by
    obtain ⟨chars, few⟩ := Bool.and_eq_true_iff.mp isPlain
    have calm : ∀ char ∈ line, isCalm char = true := fun char member =>
      isCalm_of_isPlainOnScreen (List.all_eq_true.mp chars char member)
    refine ⟨line ++ ['\n'], ?_, ?_⟩
    · show ((show? picture? line).map (· ++ ['\n'])).mapError Fault.told = _
      rw [show?_of_isCalm picture? calm (of_decide_eq_true few)]
      rfl
    · rw [Text.inked_append]
      exact List.append_nil _

end Markup

end BrowserPlan
