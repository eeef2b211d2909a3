/-
This file fixes what a text is: the list of its characters. A position in a text therefore
counts characters, and cutting a text is cutting a list, so that the facts of the list
library are facts about texts.

It holds the operations that do not depend on any class of characters: reading a known
opening, finding a part, cutting at a separator and writing numbers.
-/

namespace BrowserPlan

/-- A text is the list of its characters. -/
abbrev Text := List Char

instance : Coe String Text := ⟨String.toList⟩

namespace Text

/-! ### Openings and parts -/

/-- What follows `opening` in a text that starts with it. -/
def after? : (opening text : Text) → Option Text
  | [], text => some text
  | _ :: _, [] => none
  | expected :: opening, char :: text =>
      if expected = char then after? opening text else none

/-- Whether the text starts with `opening`. -/
def opensWith (opening text : Text) : Bool :=
  (after? opening text).isSome

/-- The first position at which `part` occurs. -/
def find? (part : Text) : Text → Option Nat
  | [] => if opensWith part [] then some 0 else none
  | char :: text =>
      if opensWith part (char :: text) then some 0 else (find? part text).map (· + 1)

/-- Whether `part` occurs in the text. -/
def holds (part text : Text) : Bool :=
  (find? part text).isSome

theorem after?_eq_some_iff {opening text rest : Text} :
    after? opening text = some rest ↔ text = opening ++ rest := by
  induction opening generalizing text with
  | nil => simp [after?, eq_comm]
  | cons expected opening inductionHypothesis =>
    cases text with
    | nil => simp [after?]
    | cons char text =>
      by_cases equal : expected = char
      · subst equal
        simp [after?, inductionHypothesis]
      · simp [after?, equal, Ne.symm equal]

theorem after?_append (opening rest : Text) : after? opening (opening ++ rest) = some rest :=
  after?_eq_some_iff.mpr rfl

theorem opensWith_iff {opening text : Text} : opensWith opening text = true ↔ opening <+: text := by
  rw [opensWith, Option.isSome_iff_exists]
  exact ⟨fun ⟨rest, found⟩ => ⟨rest, (after?_eq_some_iff.mp found).symm⟩,
    fun ⟨rest, equal⟩ => ⟨rest, after?_eq_some_iff.mpr equal.symm⟩⟩

/-- A part is held exactly when it is a run of neighbouring characters of the text. -/
theorem holds_iff {part text : Text} : holds part text = true ↔ part <:+: text := by
  rw [holds]
  induction text with
  | nil => by_cases empty : part = [] <;> simp_all [find?, opensWith_iff]
  | cons char text inductionHypothesis =>
    rw [List.infix_cons_iff, ← inductionHypothesis, find?]
    by_cases opens : opensWith part (char :: text) = true
    · simp [opens, opensWith_iff.mp opens]
    · have refused : ¬ part <+: char :: text := fun h => opens (opensWith_iff.mpr h)
      simp [opens, refused]

/-! ### Separators -/

/-- The pieces of a text between its separators; there is always at least one. -/
def piecesAt (isSeparator : Char → Bool) : Text → List Text
  | [] => [[]]
  | char :: text =>
      if isSeparator char then [] :: piecesAt isSeparator text
      else
        match piecesAt isSeparator text with
        | [] => [[char]]
        | piece :: pieces => (char :: piece) :: pieces

/-- Puts `separator` between neighbouring pieces. -/
def join (separator : Text) (pieces : List Text) : Text :=
  List.intercalate separator pieces

/-! ### Numbers -/

/-- A natural number in decimal digits. -/
def ofNat (number : Nat) : Text :=
  Nat.toDigits 10 number

/-- An integer in decimal digits, after a minus sign if it is negative. -/
def ofInt : Int → Text
  | .ofNat number => ofNat number
  | .negSucc number => '-' :: ofNat (number + 1)

/-! ### Order and case -/

/-- The order of texts by the code points of their characters. -/
def notAfter (first second : Text) : Bool :=
  !decide (second < first)

/-- The ASCII capitals in small letters, and every other character as it is. -/
def lowercaseAscii (text : Text) : Text :=
  text.map Char.toLower

end Text

end BrowserPlan
