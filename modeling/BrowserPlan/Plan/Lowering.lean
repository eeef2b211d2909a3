/-
This file turns actions into steps.

A step for an element needs a snapshot of the page that is still valid. What is known about
the page is its address and the addresses whose last snapshot still holds: a navigation takes
a snapshot at once, a click or a wait makes the snapshot of the current page stale, and a step
for an element takes a new one first if the last is stale.
-/

import BrowserPlan.Plan.Step

namespace BrowserPlan

/-! ### What is known about the page -/

/-- The address of the current page, and the addresses whose last snapshot still holds. -/
structure PageView where
  url : Text := []
  fresh : List Text := []
  deriving DecidableEq, Repr

namespace PageView

/-- Whether the snapshot of the current page still holds. -/
def isFresh (view : PageView) : Bool :=
  view.fresh.contains view.url

/-- The view after a snapshot of the current page. -/
def refreshed (view : PageView) : PageView :=
  { view with fresh := view.fresh.insert view.url }

/-- The view after the current page may have changed. -/
def staled (view : PageView) : PageView :=
  { view with fresh := view.fresh.filter (· ≠ view.url) }

/-- The view after a navigation with a snapshot. -/
def opened (view : PageView) (url : Text) : PageView :=
  refreshed { view with url }

/-- The fresh addresses in the order of their code points, each of them once. -/
def freshUrls (view : PageView) : List Text :=
  view.fresh.eraseDups.mergeSort Text.notAfter

end PageView

/-! ### Scripts -/

/-- The script that counts the elements of a selector. -/
def countScript (selector : Text) : Text :=
  match Text.after? "xpath=" selector with
  | some path =>
      "() => document.evaluate(" ++ Json.printAsciiString path ++
        ", document, null, XPathResult.ORDERED_NODE_SNAPSHOT_TYPE, null).snapshotLength"
  | none =>
      "() => document.querySelectorAll(" ++ Json.printAsciiString selector ++ ").length"

/-! ### Lowering an action -/

/-- What a plan is made for: the address for navigations that are known only at run time, and
how long a wait takes. -/
structure PlanTarget where
  baseUrl : Text
  waitSeconds : Int := 2
  deriving DecidableEq, Repr

/-- The address that a navigation opens. -/
def PlanTarget.resolve (target : PlanTarget) (url : Text) : Text :=
  if isDeferred url then target.baseUrl else url

/-- The snapshot that must come before a step for an element, if the last one is stale. -/
def PageView.snapshotBefore (view : PageView) (purpose : Text) : List Step :=
  if view.isFresh then []
  else [Step.snapshot ("Snapshot before " ++ purpose ++ " (auto-inserted)")]

/-- The view in which a step for an element is carried out. -/
def PageView.ready (view : PageView) : PageView :=
  if view.isFresh then view else view.refreshed

/-- A text between double quotes, for notes. -/
def inQuotes (text : Text) : Text :=
  '"' :: text ++ ['"']

/-- The steps of an action and the view after them. -/
def lower (target : PlanTarget) (view : PageView) (action : Action) : PageView × List Step :=
  let onElement (purpose : Text) (selector : Text) (instruction : Instruction) (note : Text) :
      List Step :=
    view.snapshotBefore purpose ++
      [{ instruction, note, selector? := some selector, action? := some action }]
  match action with
  | .navigate url =>
      let url := target.resolve url
      (view.opened url,
        [{ instruction := .navigate url, note := "Navigate to " ++ url },
          Step.snapshot "Capture accessibility snapshot to resolve element refs"])
  | .fill selector value =>
      (view.ready,
        onElement "fill" selector (.fill selector value)
          ("Fill " ++ inQuotes selector ++ " with " ++ inQuotes value))
  | .clear selector =>
      (view.ready,
        onElement "clear" selector (.fill selector []) ("Clear " ++ inQuotes selector))
  | .click selector =>
      (view.ready.staled,
        onElement "click" selector (.click selector) ("Click " ++ inQuotes selector))
  | .getText selector =>
      (view.ready,
        onElement "reading text" selector (.readText selector)
          ("Read text from " ++ inQuotes selector ++ " in the snapshot output"))
  | .wait selector _ =>
      (view.staled,
        [{ instruction := .wait target.waitSeconds
           note := "Wait for " ++ inQuotes selector ++ " to appear"
           selector? := some selector, action? := some action }])
  | .assertText selector expected =>
      (view,
        [{ instruction := .verifyText expected
           note := "Assert text visible: " ++ inQuotes expected
           selector? := some selector, action? := some action }])
  | .assertTrue expression =>
      (view,
        [{ instruction := .evaluate ("() => !!(" ++ expression ++ ")")
           note := action.type ++ ": " ++ expression, action? := some action }])
  | .assertFalse expression =>
      (view,
        [{ instruction := .evaluate ("() => !(" ++ expression ++ ")")
           note := action.type ++ ": " ++ expression, action? := some action }])
  | .countElements selector =>
      (view,
        [{ instruction := .evaluate (countScript selector)
           note := "Count elements matching " ++ inQuotes selector
           selector? := some selector, action? := some action }])
  | .unknown type _ =>
      (view,
        [{ instruction := .unhandled, note := "Unhandled action type: " ++ type
           action? := some action }])

/-- The steps of a list of actions and the view after them. -/
def lowerAll (target : PlanTarget) (view : PageView) : List Action → PageView × List Step
  | [] => (view, [])
  | action :: actions =>
      let (next, steps) := lower target view action
      let (last, more) := lowerAll target next actions
      (last, steps ++ more)

end BrowserPlan
