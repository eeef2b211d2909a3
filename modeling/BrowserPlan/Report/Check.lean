/-
This file checks a whole report: it must divide into sections, every part that is required
must be there and not be empty, and only then do the rules that count apply.

A part is named by its path in the report. The faults are told in the order of their paths,
part by part as texts, so that the tenth case comes before the second.
-/

import BrowserPlan.Report.Rule
import BrowserPlan.Report.Section

namespace BrowserPlan.Report

open Java (complain)

/-! ### Parts that are missing or empty -/

/-- A part that is missing or empty. Cases are counted from zero. -/
inductive PartFault where
  | emptyCases
  | emptyCode
  | noCategory (position : Nat)
  | noPriority (position : Nat)
  | noSteps (position : Nat)
  | noExpected (position : Nat)
  deriving DecidableEq, Repr

/-- The place of a fault in the report. -/
def PartFault.path : PartFault → List Text
  | .emptyCases => ["sections", "A"]
  | .emptyCode => ["java", "code"]
  | .noCategory position => ["cases", Text.ofNat position]
  | .noPriority position => ["cases", Text.ofNat position]
  | .noSteps position => ["cases", Text.ofNat position, "steps"]
  | .noExpected position => ["cases", Text.ofNat position, "expected"]

/-- What is wrong at the place of a fault. -/
def PartFault.complaint : PartFault → Text
  | .noCategory _ => "'category' is a required property"
  | .noPriority _ => "'priority' is a required property"
  | .noSteps _ => "[] should be non-empty"
  | _ => "'' should be non-empty"

/-- A fault in words, behind its place. -/
def PartFault.message (fault : PartFault) : Text :=
  Text.join "/" fault.path ++ " " ++ fault.complaint

/-- The faults of a case at a position. -/
def Case.faults (position : Nat) (case : Case) : List PartFault :=
  complain case.category?.isNone (.noCategory position) ++
    complain case.priority?.isNone (.noPriority position) ++
    complain case.steps.isEmpty (.noSteps position) ++
    complain case.expected.isEmpty (.noExpected position)

/-- The faults of a report in the order of their paths. -/
def partFaults (sections : Sections) (implementation : Implementation) (cases : List Case) :
    List PartFault :=
  let found :=
    complain sections.cases.isEmpty .emptyCases ++
      complain implementation.code.isEmpty .emptyCode ++
      cases.zipIdx.flatMap fun (case, position) => case.faults position
  found.mergeSort fun first second => !decide (second.path < first.path)

/-! ### The check -/

/-- What is wrong with a report. -/
inductive ReportError where
  | format (error : FormatError)
  | part (fault : PartFault)
  | rule (error : RuleError Text Nat)
  deriving DecidableEq, Repr

/-- An error in words. -/
def ReportError.message : ReportError → Text
  | .format error => error.message
  | .part fault => fault.message
  | .rule error => error.message id Text.ofNat

/-- What a check finds out. -/
structure ReportCheck where
  errors : List ReportError
  caseCount : Nat
  testCount : Nat
  deriving DecidableEq, Repr

/-- A report is valid if nothing is wrong with it. -/
def ReportCheck.valid (check : ReportCheck) : Bool :=
  check.errors.isEmpty

/-- The sections of a report and its implementation. -/
def divide (text : Text) : Except FormatError (Sections × Implementation) := do
  let sections ← Sections.ofText text
  return (sections, ← Implementation.ofSection sections.implementation)

/-- Checks a report. -/
def checkReport (text : Text) : ReportCheck :=
  match divide text with
  | .error error => { errors := [.format error], caseCount := 0, testCount := 0 }
  | .ok (sections, implementation) =>
      let cases := casesOf sections.cases
      let faults := partFaults sections implementation cases
      { errors :=
          if faults.isEmpty then
            (ruleErrors id (fun count : Nat => count < leastTests) (cases.map Case.entry)
              implementation.code implementation.testCount).map .rule
          else faults.map .part
        caseCount := cases.length
        testCount := implementation.testCount }

end BrowserPlan.Report
