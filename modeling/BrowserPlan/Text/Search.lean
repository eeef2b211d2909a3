/-
This file finds things in a text. A reader looks at the start of a text and says what it has
read and what follows; searching runs a reader at every position from the left and, after a
success, goes on behind what was read, so that findings do not overlap.

A search is a recursion over the text itself: a finding of `n` characters makes it pass over
the next `n - 1` positions.
-/

import BrowserPlan.Text.Blank

namespace BrowserPlan.Text

/-! ### Readers -/

/-- Reads a value from the start of a text and says what follows it. -/
abbrev Reader (Value : Type) := Text → Option (Value × Text)

/-! ### Finding -/

/-- The findings of a reader that also sees the character before its text, from `position` on
and passing over the next `skipped` characters. -/
def findFrom {Value : Type} (read : Option Char → Reader Value) :
    (before : Option Char) → (position skipped : Nat) → Text → List (Nat × Value)
  | _, _, _, [] => []
  | _, position, skipped + 1, char :: text =>
      findFrom read (some char) (position + 1) skipped text
  | before, position, 0, char :: text =>
      match read before (char :: text) with
      | some (value, rest) =>
          (position, value) ::
            findFrom read (some char) (position + 1) (text.length - rest.length) text
      | none => findFrom read (some char) (position + 1) 0 text

/-- All findings of a reader with their positions, from the left and without overlap. -/
def findAll {Value : Type} (read : Option Char → Reader Value) (text : Text) :
    List (Nat × Value) :=
  findFrom read none 0 0 text

/-- The first finding of a reader of which only the value matters. -/
def findFirst {Value : Type} (read : Text → Option Value) : Text → Option Value
  | [] => read []
  | char :: text => (read (char :: text)).or (findFirst read text)

/-- The number of findings of something that is only recognised. -/
def countAll (recognise : Text → Option Text) (text : Text) : Nat :=
  (findAll (fun _ text => (recognise text).map (Prod.mk ())) text).length

/-- Whether a reader succeeds anywhere, given the character before. -/
def foundAnywhere {Value : Type} (read : Option Char → Reader Value) (text : Text) : Bool :=
  findAll read text ≠ []

/-! ### Cutting -/

/-- The text before the first place where `stop` succeeds, and what `stop` gives there. -/
def upTo {Value : Type} (stop : Text → Option Value) : Text → Option (Text × Value)
  | [] => (stop []).map (Prod.mk [])
  | char :: text =>
      match stop (char :: text) with
      | some value => some ([], value)
      | none => (upTo stop text).map fun (passed, value) => (char :: passed, value)

/-- The pieces of a text, each but the first starting where `marks` holds. -/
def cutBefore (marks : Text → Bool) : Text → List Text
  | [] => [[]]
  | char :: text =>
      let pieces :=
        match cutBefore marks text with
        | [] => [[char]]
        | piece :: pieces => (char :: piece) :: pieces
      if marks (char :: text) then [] :: pieces else pieces

/-- The pieces of a text between separators that a reader recognises, passing over the next
`skipped` characters. -/
def cutAroundFrom (separator : Text → Option Text) : (skipped : Nat) → Text → List Text
  | _, [] => [[]]
  | skipped + 1, _ :: text => cutAroundFrom separator skipped text
  | 0, char :: text =>
      match separator (char :: text) with
      | some rest => [] :: cutAroundFrom separator (text.length - rest.length) text
      | none =>
          match cutAroundFrom separator 0 text with
          | [] => [[char]]
          | piece :: pieces => (char :: piece) :: pieces

/-- The pieces of a text between separators. -/
def cutAround (separator : Text → Option Text) (text : Text) : List Text :=
  cutAroundFrom separator 0 text

end BrowserPlan.Text
