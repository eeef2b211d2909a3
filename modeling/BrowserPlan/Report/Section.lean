/-
This file divides a report into its sections: the test cases, the implementation between
fences and, if it is there, the self-check. A section starts at the first place where its
letter stands in parentheses.
-/

import BrowserPlan.Java.Syntax
import BrowserPlan.Report.Fence

namespace BrowserPlan.Report

/-! ### Faults of the format -/

/-- Why a report cannot be divided. -/
inductive FormatError where
  | noSections
  | noBlock
  deriving DecidableEq, Repr

/-- An error in words. -/
def FormatError.message : FormatError → Text
  | .noSections => "Missing required sections: (A) and/or (B)."
  | .noBlock => "Missing ```java code block in (B)."

/-! ### Sections -/

/-- The three sections of a report. -/
structure Sections where
  cases : Text
  implementation : Text
  selfCheck : Text
  deriving DecidableEq, Repr

/-- What stands between two positions; nothing if the second comes first. -/
def between (text : Text) (start stop : Nat) : Text :=
  (text.take stop).drop start

/-- The sections of a text, trimmed. -/
def Sections.ofText (text : Text) : Except FormatError Sections :=
  match Text.find? "(A)" text, Text.find? "(B)" text with
  | some start, some middle =>
      let (implementation, selfCheck) :=
        match Text.find? "(C)" text with
        | some stop => (between text middle stop, text.drop stop)
        | none => (text.drop middle, [])
      .ok
        { cases := Text.trim (between text start middle)
          implementation := Text.trim implementation
          selfCheck := Text.trim selfCheck }
  | _, _ => .error .noSections

/-! ### The implementation -/

/-- The Java text of a section and the number of its tests. -/
structure Implementation where
  code : Text
  testCount : Nat
  deriving DecidableEq, Repr

/-- The first block of a section. -/
def Implementation.ofSection (part : Text) : Except FormatError Implementation :=
  match blocks part with
  | [] => .error .noBlock
  | code :: _ => .ok { code, testCount := Java.testCount code }

end BrowserPlan.Report
