/-
This file checks a stored report: the report itself and, if there is one, the Java text beside
it.
-/

import BrowserPlan.Java.Syntax
import BrowserPlan.Report.Check
import BrowserPlan.Work

namespace BrowserPlan.Store

/-- What is wrong with the report at a path and with the Java text beside it, of which only
the errors count. -/
def checkStored (leastTests : Int) (path : Path) : Work FileSystem (List Text) := do
  let report := Report.checkReport (← Work.readText path)
  let errors := report.errors.map Report.ReportError.message
  let java ← Work.ofExcept .path (path.withSuffix ".java")
  if ← Work.ask (·.isFile java) then
    let syntaxReport := Java.checkSyntax (← Work.readText java) leastTests
    return errors ++
      syntaxReport.errors.map fun error => java.name ++ ": " ++ error.message
  else return errors

end BrowserPlan.Store
