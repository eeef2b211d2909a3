/-
This file carries out the commands of the command line.

A command prints something and ends with a code: zero if all is well and one if something was
found wrong. A failure for which a command has no words ends it with one, and so does a text that
the screen refuses or that has no bytes; what was printed before that stays. A command line that is
not understood ends with two.
-/

import BrowserPlan.Command.Arguments
import BrowserPlan.Command.Screen
import BrowserPlan.Store.Check
import BrowserPlan.Store.Results
import BrowserPlan.Tool.Handler

namespace BrowserPlan

/-! ### Outcomes -/

/-- Why a command ends without words of its own. -/
inductive Crash where
  | failure (failure : Failure)
  | screen (fault : ScreenFault)
  | unencodable (fault : Utf8.HalfFault)

/-- What a command has printed, the table apart, and its code. -/
structure Outcome where
  code : Nat
  table : Text := []
  output : Text
  crash? : Option Crash := none

/-- What a command says: lines for the screen, in which tags may set a style, or plain lines that
are printed as they are. Before them there may be a table. -/
structure Message where
  code : Nat
  styled : Bool
  table? : Option Table := none
  lines : List Text

/-- A line that says what is wrong. -/
def complaintMessage (text : Text) : Message :=
  { code := 1, styled := true, lines := ["[red]❌ " ++ text ++ "[/red]"] }

/-- A record as a document, with a code. -/
def recordMessage (code : Nat) (record : Json) : Message :=
  { code, styled := false, lines := [record.printDocument] }

/-- A record as a document, or its error; `code` says how a record without an error ends. -/
def emit (code : Json → Nat) (record : Json) : Message :=
  match errorOf? record with
  | some error => complaintMessage error
  | none => recordMessage (code record) record

/-- Writes what is shown, unless it was refused or has no bytes. -/
def writeShown (shown : Except ScreenFault Text) : Except Crash Text :=
  match shown with
  | .error fault => .error (.screen fault)
  | .ok text =>
      match Utf8.halfFault? text with
      | some fault => .error (.unencodable fault)
      | none => .ok text

/-- What is shown for a line of a message. -/
def Message.shown (message : Message) (screen : Screen) (line : Text) : Except ScreenFault Text :=
  if message.styled then screen.line line else .ok (line ++ ['\n'])

/-- Prints lines one after the other: what was printed, and why no more was if that is so. -/
def Message.printLines (message : Message) (screen : Screen) : List Text → Text × Option Crash
  | [] => ([], none)
  | line :: lines =>
      match writeShown (message.shown screen line) with
      | .error crash => ([], some crash)
      | .ok text =>
          let (printed, crash?) := message.printLines screen lines
          (text ++ printed, crash?)

/-- Prints a message. -/
def Message.print (message : Message) (screen : Screen) : Outcome :=
  match (message.table?.elim (.ok []) fun table => writeShown (screen.table table)) with
  | .error crash => { code := 1, output := [], crash? := some crash }
  | .ok table =>
      let (output, crash?) := message.printLines screen message.lines
      { code := if crash?.isSome then 1 else message.code, table, output, crash? }

/-! ### Parts of commands -/

/-- Calls a tool. -/
def useTool (setup : Setup) (tool : Tool) (arguments : List (Text × Json)) :
    Work FileSystem Json := do
  let (record, after) := callTool setup tool.name arguments (← get)
  set after
  return record

/-- One if the named field of a record is false, and zero otherwise. -/
def codeUnless (name : Text) (record : Json) : Nat :=
  match record.field? name with
  | some (.bool false) => 1
  | _ => 0

/-- What is said of a plan that was written. -/
def planMessage (path : Text) (methods steps : Nat) : Message :=
  { code := 0
    styled := true
    lines :=
      ["[green]✅ Playwright validation plan generated:[/green]", "   " ++ path,
        "   Methods: " ++ Text.ofNat methods, "   Total steps: " ++ Text.ofNat steps] }

/-- The number of steps that the record of a plan of a method tells. -/
def recordedSteps (method : Json) : Nat :=
  match method.field? "total_steps" with
  | some (.number (.integer count)) => count.toNat
  | _ => 0

/-- What is said of the record of a plan. -/
def planRecordMessage (record : Json) : Message :=
  match errorOf? record with
  | some error => complaintMessage error
  | none =>
      let methods := ((record.field? "test_methods").bind Json.array?).getD []
      planMessage (((record.field? "plan_path").bind Json.string?).getD []) methods.length
        (methods.foldl (fun count method => count + recordedSteps method) 0)

/-- Makes and writes the plan of a document in a file; a document that is none gives the reason
why, unless it goes beyond a limit. -/
def planFromFile (setup : Setup) (input : Path) (target : PlanTarget) :
    Work FileSystem Message := do
  let text ← Work.readText input
  match Json.parse text with
  | .error fault =>
      if fault.problem.isLimit then throw (.json fault text)
      else return complaintMessage (fault.message text)
  | .ok document =>
      let world ← get
      match (planFor setup document input target).perform world with
      | (.error (.input error), _) => return complaintMessage error.message
      | (.error failure, _) => throw failure
      | (.ok plan, _) =>
          let path ← writePlan plan input
          return planMessage path.toText plan.methods.length plan.totalSteps

/-- The root of the store: the one that is given, or else the one of the settings. -/
def Setup.storeRoot (setup : Setup) (root? : Option Path) : Path :=
  root?.getD (Path.ofText setup.settings.resultsRoot)

/-- The table of reports with the errors that each has: the path of each from the root on, whether
it passes, and its errors. -/
def reportTable (root : Path) (reports : List Path) (errors : List (List Text)) : Table :=
  let name (report : Path) : Text :=
    Path.toText { root := [], parts := report.parts.drop root.parts.length }
  { title := "Report validation"
    columns :=
      [("File", reports.map name),
        ("Result", errors.map fun errors =>
          if errors.isEmpty then "[green]PASS[/green]" else "[red]FAIL[/red]"),
        ("Errors", errors.map (Text.join ['\n']))] }

/-! ### Commands -/

/-- Carries out a command. -/
def Command.perform (setup : Setup) : Command → Work FileSystem Message
  | .checkSyntax source => do
      let record ← useTool setup .validateSyntax [Json.textField "java_path" source.toText]
      return emit (codeUnless "valid") record
  | .compile source classpath => do
      let record ← useTool setup .compile
        [Json.textField "java_path" source.toText, Json.textField "classpath" classpath]
      let failed (record : Json) : Nat :=
        match record.field? "status" with
        | some (.string status) => if status = CompileStatus.error.word then 1 else 0
        | _ => 0
      return emit failed record
  | .coverage report feature => do
      let record ← useTool setup .validateSpec
        [Json.textField "txt_path" report.toText, Json.textField "feature" feature]
      return emit (codeUnless "valid") record
  | .extract source method? order? out? => do
      let record ← useTool setup .extractActions
        [Json.textField "java_path" source.toText,
          Json.field "test_name" (Json.ofText? method?), Json.field "order" (Json.ofText? order?)]
      match out?, errorOf? record with
      | some out, none =>
          Work.writeText out record.printDocument
          return {
            code := 0, styled := true
            lines := ["[green]✅ Actions written:[/green] " ++ out.toText] }
      | _, _ => return emit (fun _ => 0) record
  | .plan input baseUrl? => do
      if !(← Work.ask (·.isFile input)) then
        return complaintMessage (notFoundMessage input.toText)
      let target := setup.target baseUrl?
      if input.suffix = (".java" : Text) then
        let record ← useTool setup .buildPlan
          [Json.textField "java_path" input.toText, Json.textField "base_url" target.baseUrl,
            Json.field "write" (.bool true)]
        return planRecordMessage record
      else planFromFile setup input target
  | .exportResults results root? => do
      if !(← Work.ask (·.isFile results)) then
        return complaintMessage (notFoundMessage results.toText)
      match ← Store.load results with
      | [] => return complaintMessage "No results found; check the structure of the results file."
      | entries =>
          let root := setup.storeRoot root?
          let summary ← Store.exportAll root entries
          let place := (← get).files.resolve root
          return {
            code := 0, styled := true
            lines :=
              ["📊 Saved: " ++ Text.ofNat summary.saved.length ++ "  Skipped: " ++
                  Text.ofNat summary.skipped,
                "📁 Output base: " ++ FileSystem.placeText place ++ "/"] }
  | .check root? _ => do
      let root := setup.storeRoot root?
      match ← Work.ask (Store.reports · root) with
      | [] => return complaintMessage ("No reports found under " ++ root.toText)
      | reports =>
          let errors ← reports.mapM (Store.checkStored setup.settings.leastTests)
          let failed := errors.countP (!·.isEmpty)
          return {
            code := if failed = 0 then 0 else 1
            styled := true
            table? := some (reportTable root reports errors)
            lines :=
              ["  PASS: " ++ Text.ofNat (reports.length - failed),
                "  FAIL: " ++ Text.ofNat failed] }

/-- Carries out a command: what it prints, its code, and the world after it. -/
def Command.run (setup : Setup) (screen : Screen) (command : Command) (world : World) :
    Outcome × World :=
  match (command.perform setup).perform world with
  | (.ok message, after) => (message.print screen, after)
  | (.error failure, after) =>
      ({ code := 1, output := [], crash? := some (.failure failure) }, after)

/-- The outcome of a command line that is not understood. -/
def UsageFault.outcome : UsageFault → Outcome
  | .help => { code := 0, output := [] }
  | _ => { code := 2, output := [] }

/-- Carries out a command line. -/
def runCommandLine (setup : Setup) (screen : Screen) (words : List Text) (world : World) :
    Outcome × World :=
  match Command.read words with
  | .error fault => (fault.outcome, world)
  | .ok command => command.run setup screen world

end BrowserPlan
