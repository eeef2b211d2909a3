/-
This file makes names for the store: a folder name from what a model is called, and a file
name from the description of a test.

Nine characters are forbidden in names and are replaced. A model may be called by a service, a
path and a tag, of which the last part of the path is kept.
-/

import BrowserPlan.Text.Search

namespace BrowserPlan.Store

/-! ### Forbidden characters -/

/-- Whether a character has no place in the name of a file. -/
def isForbidden (char : Char) : Bool :=
  ("<>:\"/\\|?*".toList).contains char

/-- A character, or an underscore in place of one that is forbidden. -/
def permitted (char : Char) : Char :=
  if isForbidden char then '_' else char

/-! ### Models -/

/-- The name without the service that it starts with. -/
def withoutService (name : Text) : Text :=
  (Text.after? "openrouter:" name).getD name

/-- The name without its tag: what follows the first colon behind the last slash, if anything
does. -/
def withoutTag (name : Text) : Text :=
  let last := (name.reverse.takeWhile (· ≠ '/')).reverse
  let kept := last.takeWhile (· ≠ ':')
  if kept.length + 1 < last.length then name.take (name.length - last.length + kept.length)
  else name

/-- The name behind the last slash of its first line. -/
def withoutFolders (name : Text) : Text :=
  let line := name.takeWhile (· ≠ '\n')
  let kept := (line.reverse.takeWhile (· ≠ '/')).reverse
  name.drop (line.length - kept.length)

/-- The folder name of a model. -/
def modelName (provider : Text) : Text :=
  (withoutFolders (withoutTag (withoutService provider))).map permitted

/-! ### Descriptions -/

/-- The most characters of a file name, its suffix aside. -/
def stemLimit : Nat :=
  100

/-- The text with every run of blanks replaced by one underscore. -/
def joinBlanks : (afterBlank : Bool) → Text → Text
  | _, [] => []
  | afterBlank, char :: text =>
      if Text.isBlank char then
        if afterBlank then joinBlanks true text else '_' :: joinBlanks true text
      else char :: joinBlanks false text

/-- The file name of a description, its suffix aside. -/
def stemName (description : Text) : Text :=
  let printable := description.map fun char => if char.toNat < 32 then '_' else permitted char
  (joinBlanks false printable).take stemLimit

end BrowserPlan.Store
