/-
This file carries out what the tools are asked for.

Every call of a tool gives a record. A failure of any kind gives a record with an error and
nothing else, so a caller needs to look at nothing but the record.
-/

import BrowserPlan.Action.Extraction
import BrowserPlan.Java.Syntax
import BrowserPlan.Report.Coverage
import BrowserPlan.Settings
import BrowserPlan.Tool.Compiler
import BrowserPlan.Tool.Request

namespace BrowserPlan

/-! ### What the tools work with -/

/-- What does not change while the tools work: the settings, the compiler and the time. -/
structure Setup where
  settings : Settings := {}
  compiler : Compiler := {}
  clock : Text

/-! ### Records -/

/-- A record with an error and nothing else. -/
def errorRecord (message : Text) : Json :=
  .object [Json.textField "error" message]

/-- The error of a record, if it has one. -/
def errorOf? (record : Json) : Option Text :=
  (record.field? "error").bind Json.string?

/-- What is said if there is no file. -/
def notFoundMessage (path : Text) : Text :=
  "File not found: " ++ path

/-- The record of a report about Java text. -/
def Java.SyntaxReport.toJson (report : Java.SyntaxReport) : Json :=
  .object
    [("valid", .bool report.valid), ("testCount", Json.ofNat report.testCount),
      ("errors", Json.strings (report.errors.map Java.SyntaxError.message)),
      ("warnings", Json.strings (report.warnings.map Java.SyntaxWarning.message))]

/-! ### The tools -/

variable {Files : Type} [Disk Files]

/-- Reads the file of a path and goes on with its text; without the file there is an error. -/
def withFile (path : Text) (next : Text → Work Files Json) : Work Files Json := do
  if ← Work.ask (Disk.isFile · (Path.ofText path)) then next (← Work.readText (Path.ofText path))
  else return errorRecord (notFoundMessage path)

/-- The order that is asked for, or else the one of the settings. -/
def Setup.order (setup : Setup) (order? : Option ActionOrder) : ActionOrder :=
  order?.getD (.ofWord setup.settings.actionOrder)

/-- The base address that is asked for, unless that is empty, or else the one of the
settings. -/
def Setup.target (setup : Setup) (baseUrl? : Option Text) : PlanTarget :=
  { baseUrl := (baseUrl?.filter (· ≠ [])).getD setup.settings.baseUrl
    waitSeconds := setup.settings.waitSeconds }

/-- Writes a plan beside the file that it was made from. -/
def writePlan (plan : Plan) (source : Path) : Work Files Path := do
  let path ← Work.ofExcept .path source.planPath
  Work.writeText path plan.toJson.printDocument
  return path

/-- Makes the plan of a document that came from a file. -/
def planFor (setup : Setup) (document : Json) (source : Path) (target : PlanTarget) :
    Work Files Plan := do
  let place ← Work.ask (Disk.resolve · source)
  let origin : PlanOrigin := { generatedAt := setup.clock, sourceFile := place }
  Work.ofExcept .ofPlan (planOfDocument document origin target)

/-- A record with one more field at its end. -/
def withField (record : Json) (name : Text) (value : Json) : Json :=
  match record with
  | .object fields => .object (fields ++ [(name, value)])
  | other => other

/-- Carries out a request. -/
def Request.perform (setup : Setup) : Request → Work Files Json
  | .validateSyntax source =>
      withFile source fun text =>
        return (Java.checkSyntax text setup.settings.leastTests).toJson
  | .compile source classpath => do
      let call : CompilerCall := { binary := setup.settings.compiler, classpath, source }
      return (← setup.compiler.compile call setup.settings.compileTimeout).toJson
  | .validateSpec report feature =>
      withFile report fun text => return Report.coverageRecord text feature
  | .extractActions source method? order? =>
      withFile source fun text =>
        return (Extraction.ofSource text method? (setup.order order?)).toJson
  | .buildPlan source method? order? baseUrl? write? =>
      withFile source fun text => do
        let document := (Extraction.ofSource text method? (setup.order order?)).toJson
        let path := Path.ofText source
        let plan ← planFor setup document path (setup.target baseUrl?)
        if write?.getD setup.settings.writePlans then
          let written ← writePlan plan path
          return withField plan.toJson "plan_path" (.string written.toText)
        else return plan.toJson

/-! ### Calls -/

/-- The error of arguments that cannot be read. -/
def argumentsMessage (tool : Tool) (faults : List ArgumentFault) : Text :=
  "Invalid arguments for " ++ tool.name ++ ": " ++
    Text.join "; " (faults.map ArgumentFault.message)

/-- Carries out a request; a failure becomes a record. -/
def Request.answer (setup : Setup) (request : Request) (world : World Files) :
    Json × World Files :=
  match (request.perform setup).perform world with
  | (.ok record, after) => (record, after)
  | (.error failure, after) => (errorRecord failure.message, after)

/-- Calls the tool of a name. -/
def callTool (setup : Setup) (name : Text) (arguments : List (Text × Json)) (world : World Files) :
    Json × World Files :=
  match Tool.ofName? name with
  | none => (errorRecord ("Unknown tool: " ++ name), world)
  | some tool =>
      match Request.read tool arguments with
      | .error faults => (errorRecord (argumentsMessage tool faults), world)
      | .ok request => request.answer setup world

end BrowserPlan
