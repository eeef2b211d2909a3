/-
This file holds the steps of a plan: what the browser is told, one instruction at a time.

An instruction for an element does not name the element but describes it; whoever runs the
plan finds it in the latest snapshot of the page. Such a step carries a template with a place
for the reference that is found there.
-/

import BrowserPlan.Action.Basic
import BrowserPlan.Action.Locator

namespace BrowserPlan

/-! ### Instructions -/

/-- What the browser is told. -/
inductive Instruction where
  | navigate (url : Text)
  | snapshot
  | fill (selector value : Text)
  | click (selector : Text)
  | readText (selector : Text)
  | wait (seconds : Int)
  | verifyText (text : Text)
  | evaluate (script : Text)
  | unhandled
  deriving DecidableEq, Repr

namespace Instruction

/-- The tool of the browser that carries an instruction out. -/
def tool : Instruction → Text
  | .navigate _ => "browser_navigate"
  | .snapshot => "browser_snapshot"
  | .fill _ _ => "browser_fill_form"
  | .click _ => "browser_click"
  | .readText _ => "browser_snapshot"
  | .wait _ => "browser_wait_for"
  | .verifyText _ => "browser_verify_text_visible"
  | .evaluate _ => "browser_evaluate"
  | .unhandled => "unhandled"

/-- What stands for the reference of an element until it is found. -/
def referencePlace : Text :=
  "\x7b\x7b resolve ref from latest snapshot \x7d\x7d"

/-- The description of an element and the place for its reference. -/
def target (selector : Text) : List (Text × Json) :=
  [Json.textField "element" (describe selector), Json.textField "ref" referencePlace]

/-- The arguments that are known when the plan is made. -/
def arguments? : Instruction → Option (List (Text × Json))
  | .navigate url => some [("url", .string url)]
  | .snapshot => some []
  | .fill _ _ => none
  | .click _ => none
  | .readText _ => some []
  | .wait seconds => some [("time", Json.ofInt seconds)]
  | .verifyText text => some [("text", .string text)]
  | .evaluate script => some [("function", .string script)]
  | .unhandled => none

/-- The arguments that wait for the reference of an element. -/
def template? : Instruction → Option (List (Text × Json))
  | .fill selector value =>
      some [("fields", .array [.object (target selector ++ [Json.textField "value" value])])]
  | .click selector => some (target selector)
  | .readText selector => some (target selector)
  | _ => none

/-- Whether it is still open if the element of the instruction is on the page. -/
def isPending : Instruction → Bool
  | .fill _ _ => true
  | .click _ => true
  | .readText _ => true
  | .verifyText _ => true
  | _ => false

end Instruction

/-! ### Steps -/

/-- A step of a plan: an instruction, a note for people, the selector it is about, the action
it carries out, and its number in the plan, which is zero before it has one. -/
structure Step where
  instruction : Instruction
  note : Text
  selector? : Option Text := none
  action? : Option Action := none
  number : Nat := 0

namespace Step

/-- Whether the step takes a snapshot that later steps may use. -/
def isSnapshot (step : Step) : Bool :=
  step.instruction = .snapshot

/-- Whether the step is passed over when the plan is run. -/
def isSkipped (step : Step) : Bool :=
  step.instruction = .unhandled

/-- A field, if there is a value for it. -/
def fieldIf (name : Text) (value? : Option Json) : List (Text × Json) :=
  match value? with
  | some value => [(name, value)]
  | none => []

/-- A field that is true, if the condition holds. -/
def flagIf (name : Text) (condition : Bool) : List (Text × Json) :=
  fieldIf name (if condition then some (.bool true) else none)

/-- The document of a step; a field that a step does not have is left out. -/
def toJson (step : Step) : Json :=
  .object
    (Json.field "seq" (Json.ofNat step.number) :: Json.textField "tool" step.instruction.tool ::
      fieldIf "args" (step.instruction.arguments?.map .object) ++
      fieldIf "args_template" (step.instruction.template?.map .object) ++
      Json.textField "note" step.note ::
      fieldIf "selector_hint" (step.selector?.map .string) ++
      fieldIf "locator_status"
        (if step.instruction.isPending then some (.string "pending") else none) ++
      fieldIf "original_action" (step.action?.map Action.toJson) ++
      flagIf "snapshot" step.isSnapshot ++
      flagIf "skipped" step.isSkipped)

/-- The snapshot step with the given note. -/
def snapshot (note : Text) : Step :=
  { instruction := .snapshot, note }

/-- The steps numbered from `first` on. -/
def numbered (first : Nat) : List Step → List Step
  | [] => []
  | step :: steps => { step with number := first } :: numbered (first + 1) steps

end Step

end BrowserPlan
