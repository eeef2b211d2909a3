/-
This file holds locators: how a test says which element of a page it means.

In a test a locator is written `By.kind("value")`. Seven kinds are known, and each of them
turns its decoded value into a selector of its own form. A locator of another kind has no
selector and stands for itself as it is written.
-/

import BrowserPlan.Java.Literal
import BrowserPlan.Text.Word

namespace BrowserPlan

open Text (Reader)

/-! ### Kinds of locators -/

/-- The known kinds of locators. -/
inductive LocatorKind where
  | id
  | name
  | cssSelector
  | xpath
  | className
  | tagName
  | linkText
  deriving DecidableEq, Repr

namespace LocatorKind

/-- How a kind is written in a test. -/
def word : LocatorKind → Text
  | .id => "id"
  | .name => "name"
  | .cssSelector => "cssSelector"
  | .xpath => "xpath"
  | .className => "className"
  | .tagName => "tagName"
  | .linkText => "linkText"

/-- All kinds of locators that are understood. -/
def all : List LocatorKind :=
  [.id, .name, .cssSelector, .xpath, .className, .tagName, .linkText]

/-- The kind that a word stands for. -/
def ofWord? (word : Text) : Option LocatorKind :=
  all.find? fun kind => kind.word = word

/-- The selector of a kind for a decoded value. -/
def selector (kind : LocatorKind) (value : Text) : Text :=
  match kind with
  | .id => '#' :: value
  | .name => "[name=\"" ++ value ++ "\"]"
  | .cssSelector => value
  | .xpath => "xpath=" ++ value
  | .className => '.' :: value
  | .tagName => value
  | .linkText => "text=\"" ++ value ++ "\""

end LocatorKind

/-! ### Written locators -/

/-- A locator as it is written: the word for its kind and the contents of its literal. -/
structure Locator where
  word : Text
  contents : Text
  deriving DecidableEq, Repr

namespace Locator

/-- The selector of a locator of a known kind. -/
def selector? (locator : Locator) : Option Text :=
  (LocatorKind.ofWord? locator.word).map fun kind =>
    kind.selector (Java.unescape locator.contents)

/-- Reads an opening parenthesis between blanks. -/
def readOpening (text : Text) : Option Text :=
  (Text.after? "(" (Text.dropBlanks text)).map Text.dropBlanks

/-- Reads a closing parenthesis behind blanks. -/
def readClosing (text : Text) : Option Text :=
  Text.after? ")" (Text.dropBlanks text)

/-- Reads `By.kind("value")` with any word as its kind. -/
def read : Reader Locator := fun text => do
  let (word, text) ← Text.readWord? (← Text.after? "By." text)
  let (contents, text) ← Java.readLiteral (← readOpening text)
  let text ← readClosing text
  return (⟨word, contents⟩, text)

/-- Reads a locator as the selector that it means: as it is written if its kind is unknown. -/
def readSelector : Reader Text := fun text => do
  let (locator, rest) ← read text
  let written := text.take (text.length - rest.length)
  return (locator.selector?.getD written, rest)

/-- The selector that a whole expression means, blanks around it aside. An expression that is
no locator of a known kind stands for itself. -/
def normalize (expression : Text) : Text :=
  match read (Text.dropBlanks expression) with
  | some (locator, rest) =>
      if Text.isAllBlank rest then locator.selector?.getD expression else expression
  | none => expression

end Locator

/-! ### Descriptions -/

/-- What stands between a known opening and a known ending, if it holds no newline. One newline
at the very end of the text is passed over. -/
def lineBetween? (opening ending text : Text) : Option Text := do
  let rest ← Text.after? opening text
  let cut (rest : Text) : Option Text :=
    (Text.after? ending.reverse rest.reverse).map List.reverse
  let inner ← (cut rest).or ((Text.after? "\n" rest.reverse).bind fun bare => cut bare.reverse)
  if inner.contains '\n' then none else some inner

/-- Whether a text is the name of a tag: an ASCII letter, then ASCII letters, digits and
hyphens. -/
def isTagName : Text → Bool
  | [] => false
  | char :: text => char.isAlpha && text.all fun char => char.isAlphanum || char == '-'

/-- What a selector means to a person who looks at the page. -/
def describe (selector : Text) : Text :=
  match selector with
  | '#' :: value => "element with id=\"" ++ value ++ "\""
  | '.' :: value => "element with class=\"" ++ value ++ "\""
  | _ =>
      match lineBetween? "[name=\"" "\"]" selector with
      | some value => "input with name=\"" ++ value ++ "\""
      | none =>
          match lineBetween? "text=\"" "\"" selector with
          | some value => "element with text \"" ++ value ++ "\""
          | none =>
              match Text.after? "xpath=" selector with
              | some value => "element at xpath " ++ value
              | none =>
                  if isTagName selector then '<' :: selector ++ "> element" else selector

end BrowserPlan
