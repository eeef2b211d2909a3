/-
This file recognises actions in the body of a test method.

There are ten constructs, and each of them is looked for on its own over the whole body, in
which comments are blanked out. The findings are listed construct by construct or, if asked
for, in the order in which they stand in the body; of two at one position the earlier
construct comes first.
-/

import BrowserPlan.Action.Basic
import BrowserPlan.Action.Locator
import BrowserPlan.Java.Scan

namespace BrowserPlan

open Text (Reader)

/-! ### Arguments -/

/-- What follows the end of a statement: a closing parenthesis and a semicolon. -/
def statementEnd? (text : Text) : Option Text := do
  let text ← Text.after? ")" text
  Text.after? ";" (Text.dropBlanks text)

/-- Reads up to the end of the statement; no other semicolon may come before. -/
def readToStatementEnd : Reader Text
  | [] => none
  | char :: text =>
      match statementEnd? (char :: text) with
      | some rest => some ([], rest)
      | none =>
          if char = ';' then none
          else (readToStatementEnd text).map fun (passed, rest) => (char :: passed, rest)

/-- Reads the last argument of a statement behind its opening parenthesis: not nothing, and
trimmed. -/
def readArgument : Reader Text := fun text => do
  let (argument, rest) ← readToStatementEnd text
  if argument = [] then none else some (Text.trim argument, rest)

/-- The value of an argument: that of a literal, and the expression itself otherwise. -/
def literalOrDeferred (expression : Text) : Text :=
  let bare := Text.trim expression
  match Java.wholeLiteral? bare with
  | some contents => Java.unescape contents
  | none => deferred bare

/-! ### Calls -/

/-- Reads a point between blanks. -/
def readPoint (text : Text) : Option Text :=
  (Text.after? "." (Text.dropBlanks text)).map Text.dropBlanks

/-- Reads a point and the name of a method. -/
def readMethod (name text : Text) : Option Text := do
  Text.after? name (← readPoint text)

/-- Reads an opening parenthesis behind blanks. -/
def readOpened (text : Text) : Option Text :=
  Text.after? "(" (Text.dropBlanks text)

/-- Reads a pair of parentheses with nothing between. -/
def readNoArguments (text : Text) : Option Text := do
  Locator.readClosing (← readOpened text)

/-- Reads a call of the named function on a locator, as the selector that it means. -/
def readLookup (function : Text) : Reader Text := fun text => do
  let (selector, text) ← Locator.readSelector (← Locator.readOpening (← Text.after? function text))
  return (selector, ← Locator.readClosing text)

/-- Reads the look-up of one element. -/
def readElement : Reader Text :=
  readLookup "findElement"

/-- Reads an element and a call on it that takes no arguments. -/
def readElementCall (method : Text) : Reader Text := fun text => do
  let (selector, text) ← readElement text
  return (selector, ← readNoArguments (← readMethod method text))

/-! ### Constructs -/

/-- The constructs that are recognised, in the order in which they are listed. -/
inductive Construct where
  | navigate
  | fill
  | clear
  | click
  | getText
  | assertText
  | assertTrue
  | assertFalse
  | wait
  | countElements
  deriving DecidableEq, Repr

/-- All kinds of constructs, in the order in which they are grouped. -/
def Construct.all : List Construct :=
  [.navigate, .fill, .clear, .click, .getText, .assertText, .assertTrue, .assertFalse, .wait,
    .countElements]

/-- Reads the method of the driver that opens a page. -/
def readOpenPage (text : Text) : Option Text := do
  let text ← readPoint text
  match Text.after? "get" text with
  | some rest => some rest
  | none => readMethod "to" (← readNoArguments (← Text.after? "navigate" text))

/-- Reads the opening of a page, where no word may run on into it. -/
def readNavigate (before : Option Char) : Reader Action := fun text =>
  if before.any Text.isWord then none
  else do
    let text ← readOpened (← readOpenPage (← Text.after? "driver" text))
    let (url, rest) ← readArgument text
    return (.navigate (literalOrDeferred url), rest)

/-- Reads an element and the keys that are sent to it. -/
def readFill : Reader Action := fun text => do
  let (selector, text) ← readElement text
  let (value, rest) ← readArgument (← readOpened (← readMethod "sendKeys" text))
  return (.fill selector (literalOrDeferred value), rest)

/-- Reads up to and including the look-up of an element's text; no semicolon may come
before. -/
def readToElementText : Reader Text
  | [] => none
  | char :: text =>
      let found := do
        let (selector, rest) ← readElement (char :: text)
        return (selector, ← readMethod "getText" rest)
      match found with
      | some result => some result
      | none => if char = ';' then none else readToElementText text

/-- Reads a comparison of a literal with the text of an element. -/
def readAssertText : Reader Action := fun text => do
  let opened ← Locator.readOpening (← Text.after? "assertEquals" text)
  let (expected, text) ← Java.readLiteral opened
  let (selector, rest) ← readToElementText (← Text.after? "," (Text.dropBlanks text))
  return (.assertText selector (Java.unescape expected), rest)

/-- Reads a statement of the named function with one argument. -/
def readStatement (function : Text) : Reader Text := fun text => do
  readArgument (← readOpened (← Text.after? function text))

/-- Reads a condition on an element. -/
def readWait : Reader Action := fun text => do
  let (condition, text) ← Text.readWord? (← readPoint (← Text.after? "ExpectedConditions" text))
  let (selector, text) ← Locator.readSelector (← Locator.readOpening text)
  return (.wait selector (some condition), ← Locator.readClosing text)

/-- Reads the counting of elements. -/
def readCount : Reader Action := fun text => do
  let (selector, text) ← readLookup "findElements" text
  return (.countElements selector, ← readNoArguments (← readMethod "size" text))

/-- Reads a construct. The assertion that what is true is true says nothing and gives no
action. -/
def Construct.read (construct : Construct) (before : Option Char) : Reader (Option Action) :=
  fun text =>
    let acted (found : Option (Action × Text)) : Option (Option Action × Text) :=
      found.map fun (action, rest) => (some action, rest)
    let onElement (method : Text) (action : Text → Action) : Option (Option Action × Text) :=
      acted ((readElementCall method text).map fun (selector, rest) => (action selector, rest))
    match construct with
    | .navigate => acted (readNavigate before text)
    | .fill => acted (readFill text)
    | .clear => onElement "clear" .clear
    | .click => onElement "click" .click
    | .getText => onElement "getText" .getText
    | .assertText => acted (readAssertText text)
    | .assertTrue =>
        (readStatement "assertTrue" text).map fun (expression, rest) =>
          (if expression = ("true" : Text) then none else some (.assertTrue expression), rest)
    | .assertFalse =>
        (readStatement "assertFalse" text).map fun (expression, rest) =>
          (some (.assertFalse expression), rest)
    | .wait => acted (readWait text)
    | .countElements => acted (readCount text)

/-! ### Bodies -/

/-- The order in which the actions of a body are listed. -/
inductive ActionOrder where
  | grouped
  | source
  deriving DecidableEq, Repr

/-- The word for an order. -/
def ActionOrder.word : ActionOrder → Text
  | .grouped => "grouped"
  | .source => "source"

/-- The order that a word asks for; any word but `source` asks for groups. -/
def ActionOrder.ofWord (word : Text) : ActionOrder :=
  if word = ActionOrder.source.word then .source else .grouped

/-- The actions of one construct in a text, with their positions. -/
def Construct.findAll (construct : Construct) (text : Text) : List (Nat × Action) :=
  (Text.findAll construct.read text).filterMap fun (position, found) =>
    found.map (Prod.mk position)

/-- The actions in a text, construct by construct, with their positions. -/
def findActions (text : Text) : List (Nat × Action) :=
  Construct.all.flatMap fun construct => construct.findAll text

/-- The actions of a body in the given order. -/
def actionsOfBody (body : Text) (order : ActionOrder) : List Action :=
  let found := findActions (Java.masked .commentsOnly body)
  let ordered :=
    match order with
    | .grouped => found
    | .source => found.mergeSort fun first second => first.1 ≤ second.1
  ordered.map Prod.snd

end BrowserPlan
