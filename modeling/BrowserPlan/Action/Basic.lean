/-
This file holds actions: what a test does in a browser, free of the library that it was
written for.

A value that is known only while the test runs is kept as the expression that computes it,
between marks of its own. A record of an unknown kind, or of a known kind with a field that
is missing or no text, is kept whole, so that nothing is lost between reading and writing.
-/

import BrowserPlan.Json.Spelling

namespace BrowserPlan

/-! ### Deferred values -/

/-- The mark that opens a value known only while the test runs. -/
def deferredMark : Text :=
  "\x7b\x7b"

/-- An expression as a value known only while the test runs. -/
def deferred (expression : Text) : Text :=
  deferredMark ++ " " ++ expression ++ " \x7d\x7d"

/-- Whether a value is known only while the test runs. -/
def isDeferred (value : Text) : Bool :=
  Text.opensWith deferredMark value

/-! ### Actions -/

/-- What a test does in a browser. -/
inductive Action where
  | navigate (url : Text)
  | click (selector : Text)
  | fill (selector value : Text)
  | clear (selector : Text)
  | getText (selector : Text)
  | wait (selector : Text) (condition : Option Text)
  | assertText (selector expected : Text)
  | assertTrue (expression : Text)
  | assertFalse (expression : Text)
  | countElements (selector : Text)
  | unknown (type : Text) (fields : List (Text × Json))
  deriving Inhabited

namespace Action

/-- The name of the type of an action in a document. -/
def type : Action → Text
  | .navigate _ => "navigate"
  | .click _ => "click"
  | .fill _ _ => "fill"
  | .clear _ => "clear"
  | .getText _ => "get_text"
  | .wait _ _ => "wait"
  | .assertText _ _ => "assert_text"
  | .assertTrue _ => "assert_true"
  | .assertFalse _ => "assert_false"
  | .countElements _ => "count_elements"
  | .unknown type _ => type

/-- The fields of an action in a document, its type aside. -/
def fields : Action → List (Text × Json)
  | .navigate url => [("url", .string url)]
  | .click selector => [("selector", .string selector)]
  | .fill selector value => [("selector", .string selector), ("value", .string value)]
  | .clear selector => [("selector", .string selector)]
  | .getText selector => [("selector", .string selector)]
  | .wait selector none => [("selector", .string selector)]
  | .wait selector (some condition) =>
      [("selector", .string selector), ("condition", .string condition)]
  | .assertText selector expected =>
      [("selector", .string selector), ("expected", .string expected)]
  | .assertTrue expression => [("expression", .string expression)]
  | .assertFalse expression => [("expression", .string expression)]
  | .countElements selector => [("selector", .string selector)]
  | .unknown _ fields => fields

/-- An action as a record of a document. -/
def toJson (action : Action) : Json :=
  .object (("type", .string action.type) :: action.fields)

/-! ### Reading records -/

/-- Reads the fields of a record of a known type, if all of them are there and are texts. A
condition may be missing or null. -/
def ofFields? (type : Text) (fields : List (Text × Json)) : Option Action :=
  let text? (name : Text) : Option Text := (Json.fieldOf? name fields).bind Json.string?
  if type = ("navigate" : Text) then (text? "url").map .navigate
  else if type = ("click" : Text) then (text? "selector").map .click
  else if type = ("fill" : Text) then do return .fill (← text? "selector") (← text? "value")
  else if type = ("clear" : Text) then (text? "selector").map .clear
  else if type = ("get_text" : Text) then (text? "selector").map .getText
  else if type = ("wait" : Text) then do
    let selector ← text? "selector"
    match Json.fieldOf? "condition" fields with
    | none | some .null => return .wait selector none
    | some (.string condition) => return .wait selector (some condition)
    | some _ => none
  else if type = ("assert_text" : Text) then do
    return .assertText (← text? "selector") (← text? "expected")
  else if type = ("assert_true" : Text) then (text? "expression").map .assertTrue
  else if type = ("assert_false" : Text) then (text? "expression").map .assertFalse
  else if type = ("count_elements" : Text) then (text? "selector").map .countElements
  else none

/-- Reads the fields of a record. Its type is taken by its name, and a record that cannot be
read is kept whole. -/
def ofRecord (record : List (Text × Json)) : Action :=
  let type := ((Json.fieldOf? "type" record).map Json.nameText).getD []
  let fields := record.filter fun field => field.1 ≠ ("type" : Text)
  (ofFields? type fields).getD (.unknown type fields)

end Action

end BrowserPlan
