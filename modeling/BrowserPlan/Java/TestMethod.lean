/-
This file cuts the test methods out of Java text.

A test method starts with its annotation; further annotations, modifiers, the name, the
parameters and a list of exceptions follow, and then the body between braces. All of it is
recognised in the fully masked text, so that nothing in a comment or a literal counts, and the
body is then cut out of the text itself at the same positions. If the body never ends it
reaches to the end of the text.
-/

import BrowserPlan.Java.Scan
import BrowserPlan.Text.Search
import BrowserPlan.Text.Word

namespace BrowserPlan.Java

open Text (Reader)

/-! ### The head of a test method -/

/-- The annotation that marks a test, where no word runs on behind it. -/
def testMark? (text : Text) : Option Text :=
  Text.keyword? "@Test" text

/-- Reads a pair of parentheses and whatever stands up to the first closing one. -/
def readParentheses (text : Text) : Option Text :=
  match Text.after? "(" text with
  | none => none
  | some text =>
      match text.dropWhile (· ≠ ')') with
      | [] => none
      | _ :: rest => some rest

/-- Passes over parentheses behind blanks, if they are there. -/
def skipParentheses (text : Text) : Text :=
  (readParentheses (Text.dropBlanks text)).getD text

/-- Passes over the characters of a dotted name. -/
def skipDotted (text : Text) : Text :=
  text.dropWhile fun char => Text.isWord char || char == '.'

/-- Reads the name of an annotation: words with single points between them. `fuel` bounds the
number of words. -/
def readAnnotationName : (fuel : Nat) → Text → Option Text
  | 0, _ => none
  | fuel + 1, text => do
      let (_, rest) ← Text.readWord? text
      match rest with
      | '.' :: more => return (readAnnotationName fuel more).getD rest
      | _ => return rest

/-- Reads blanks and an annotation behind them. -/
def readAnnotation (text : Text) : Option Text := do
  let text ← Text.after? "@" (← Text.dropSomeBlanks? text)
  return skipParentheses (← readAnnotationName (text.length + 1) text)

/-- Passes over annotations. -/
def skipAnnotations : (fuel : Nat) → Text → Text
  | 0, text => text
  | fuel + 1, text =>
      match readAnnotation text with
      | some rest => skipAnnotations fuel rest
      | none => text

/-- The modifiers that a test method may have. -/
def modifiers : List Text :=
  ["public", "protected", "private", "static", "final", "synchronized"]

/-- Reads a modifier and the blanks behind it. -/
def readModifier (text : Text) : Option Text :=
  modifiers.findSome? fun modifier => (Text.after? modifier text).bind Text.dropSomeBlanks?

/-- Passes over modifiers. -/
def skipModifiers : (fuel : Nat) → Text → Text
  | 0, text => text
  | fuel + 1, text =>
      match readModifier text with
      | some rest => skipModifiers fuel rest
      | none => text

/-- Reads the characters of a dotted name, at least one. -/
def readDotted (text : Text) : Option Text :=
  if (skipDotted text).length < text.length then some (skipDotted text) else none

/-- Passes over further names of a list, each behind a comma. -/
def skipNames : (fuel : Nat) → Text → Text
  | 0, text => text
  | fuel + 1, text =>
      let next := do
        readDotted (Text.dropBlanks (← Text.after? "," (Text.dropBlanks text)))
      match next with
      | some rest => skipNames fuel rest
      | none => text

/-- Passes over a list of exceptions and the blanks behind it, if there is one. -/
def skipExceptions (text : Text) : Text :=
  let list := do
    let text ← readDotted (← Text.dropSomeBlanks? (← Text.after? "throws" text))
    return Text.dropBlanks (skipNames text.length text)
  list.getD text

/-- Reads the head of a test method up to its opening brace: the name, and the text from the
brace on. -/
def readHead : Reader Text := fun text => do
  let text := skipParentheses (← testMark? text)
  let text ← Text.dropSomeBlanks? (skipAnnotations text.length text)
  let text ← Text.dropSomeBlanks? (← Text.after? "void" (skipModifiers text.length text))
  let (name, text) ← Text.readWord? text
  let text ← readParentheses (Text.dropBlanks text)
  let text := skipExceptions (Text.dropBlanks text)
  if Text.opensWith ['\x7b'] text then some (name, text) else none

/-! ### Segments -/

/-- A test method that was cut out of a text: its name, its body with the braces, the
positions where the body starts and ends, and whether its closing brace was found. -/
structure Segment where
  name : Text
  body : Text
  start : Nat
  stop : Nat
  terminated : Bool
  deriving DecidableEq, Repr

/-- A test method in masked text: its name, how many characters stand from the opening brace
to the end of the text, how long its body is and whether it is closed. -/
structure Outline where
  name : Text
  remaining : Nat
  length : Nat
  closed : Bool

/-- Reads a test method with its body in masked text. -/
def readOutline : Reader Outline := fun text =>
  (readHead text).map fun (name, rest) =>
    match closingBrace 0 rest with
    | some distance =>
        ({ name, remaining := rest.length, length := distance + 1, closed := true },
          rest.drop (distance + 1))
    | none => ({ name, remaining := rest.length, length := rest.length, closed := false }, [])

/-- The outlines of the test methods in masked text. -/
def outlines (masked : Text) : List Outline :=
  (Text.findAll (fun _ => readOutline) masked).map Prod.snd

/-- The test method of an outline, cut out of the text itself. -/
def Outline.segment (text : Text) (outline : Outline) : Segment :=
  let start := text.length - outline.remaining
  { name := outline.name
    body := (text.drop start).take outline.length
    start
    stop := start + outline.length
    terminated := outline.closed }

/-- The test methods of a text, in order. -/
def segments (text : Text) : List Segment :=
  (outlines (masked .full text)).map (Outline.segment text)

end BrowserPlan.Java
