/-
This file puts pictures in the place of their names in a text for the screen.

A name stands between colons, in letters of either size, and no blank may stand there. Behind
the name it may be said whether the picture is wanted as text or as a picture, which adds a
character that selects the form. What is no known name stays as it is, with both its colons. Which
names are known is not said here.
-/

import BrowserPlan.Text.Blank
import BrowserPlan.Text.Case

namespace BrowserPlan.Emoji

/-! ### Names -/

/-- The ends of a name that select a form, and the characters that do so. -/
def forms : List (Text × Char) :=
  [("-text", '\ufe0e'), ("-emoji", '\ufe0f')]

/-- The text before `ending` in a text that ends with it. -/
def before? (ending text : Text) : Option Text :=
  (Text.after? ending.reverse text.reverse).map List.reverse

section Pictures

variable (picture? : Text → Option Text)

/-- What is shown for what stands between two colons, if it names a picture. -/
def shown? (code : Text) : Option Text :=
  let split (ending : Text) (form : Char) := (before? ending code).map fun name => (name, form)
  match forms.findSome? fun (ending, form) => split ending form with
  | some (name, form) => (picture? (Text.lowercase name)).map (· ++ [form])
  | none => picture? (Text.lowercase code)

/-! ### Texts -/

/-- What stands behind a colon up to the next one, if no blank comes before that. -/
def codeAt? (text : Text) : Option Text :=
  let code := text.takeWhile fun char => char ≠ ':' && !Text.isBlank char
  if (text.drop code.length).head? = some ':' then some code else none

/-- The text with pictures in place of their names, passing over the next `skipped`
characters. -/
def replaceFrom : (skipped : Nat) → Text → Text
  | _, [] => []
  | skipped + 1, _ :: text => replaceFrom skipped text
  | 0, char :: text =>
      match (if char = ':' then codeAt? text else none) with
      | none => char :: replaceFrom 0 text
      | some code =>
          (shown? picture? code).getD (':' :: code ++ [':']) ++ replaceFrom (code.length + 1) text

/-- The text with pictures in place of their names. -/
def replace (text : Text) : Text :=
  replaceFrom picture? 0 text

end Pictures

end BrowserPlan.Emoji
