/-
This file proves what a call of a tool does to the files.

Only a request for a plan writes, and only if it is asked to. The arguments, the source and the plan
itself are looked at first, and the one text that is written is the last thing that is done. So a
failure before that leaves all files as they were. Writing itself can fail as well, and then the
file of the plan may be lost: a plan that holds half of a UTF-16 pair has no bytes, which is found
out when its file has been opened and is empty.

The path of the plan is never the path of its source, and in a file system without links it does not
lead there either. A link can lead anywhere, and writing goes over it.
-/

import BrowserPlan.Proofs.Store.Disk
import BrowserPlan.Proofs.Tool.Compiler
import BrowserPlan.Proofs.Tool.Request
import BrowserPlan.Proofs.Work

namespace BrowserPlan

open Work

/-! ### Records -/

/-- The record is an error. -/
def HasError (record : Json) : Prop :=
  (record.field? "error").isSome

instance : DecidablePred HasError := fun record =>
  inferInstanceAs (Decidable ((record.field? "error").isSome = true))

/-- The record of work that did not get to its end: because a file is not there, or anything else
that can go wrong. -/
inductive IsFailure : Json → Prop where
  | notFound (path : Text) : IsFailure (errorRecord (notFoundMessage path))
  | failed (failure : Failure) : IsFailure (errorRecord failure.message)

/-- The record of work that is done. -/
structure IsResult (record : Json) : Prop where
  isObject : ∃ fields, record = .object fields
  noError : ¬ HasError record

theorem hasError_errorRecord (message : Text) : HasError (errorRecord message) :=
  rfl

theorem IsFailure.hasError {record : Json} (isFailure : IsFailure record) : HasError record := by
  cases isFailure <;> exact hasError_errorRecord _

theorem HasError.isObject {record : Json} (hasError : HasError record) :
    ∃ fields, record = .object fields := by
  cases record with
  | object fields => exact ⟨fields, rfl⟩
  | _ => cases hasError

theorem Java.SyntaxReport.isResult (report : SyntaxReport) : IsResult report.toJson :=
  ⟨⟨_, rfl⟩, by simp [HasError, Json.field?, toJson, Json.fieldOf?]⟩

theorem CompileOutcome.isResult (outcome : CompileOutcome) : IsResult outcome.toJson :=
  ⟨⟨_, rfl⟩, by simp [HasError, Json.field?, toJson, Json.fieldOf?]⟩

theorem Report.isResult_coverageRecord (text name : Text) :
    IsResult (coverageRecord text name) := by
  rw [coverageRecord]
  cases Feature.ofName? name <;>
    exact ⟨⟨_, rfl⟩, by simp [HasError, Json.field?, Json.fieldOf?]⟩

theorem Extraction.isResult (extraction : Extraction) : IsResult extraction.toJson :=
  ⟨⟨_, rfl⟩, by simp [HasError, Json.field?, toJson, Json.fieldOf?]⟩

theorem Plan.isResult (plan : Plan) : IsResult plan.toJson :=
  ⟨⟨_, rfl⟩, by simp [HasError, Json.field?, toJson, Json.fieldOf?]⟩

theorem Plan.isResult_withField (plan : Plan) (path : Json) :
    IsResult (withField plan.toJson "plan_path" path) :=
  ⟨⟨_, rfl⟩, by simp [HasError, Json.field?, withField, toJson, Json.fieldOf?]⟩

/-- The record of what work comes to. -/
def recordOf : Except Failure Json → Json
  | .ok record => record
  | .error failure => errorRecord failure.message

/-! ### Parts of a request -/

section Parts

variable {Files : Type} [Disk Files]

theorem Request.answer_eq (setup : Setup) (request : Request) (world : World Files) :
    request.answer setup world =
      (recordOf ((request.perform setup).perform world).1,
        ((request.perform setup).perform world).2) := by
  rw [answer]
  rcases (request.perform setup).perform world with ⟨outcome, after⟩
  cases outcome <;> rfl

theorem callTool_of_read (setup : Setup) {tool : Tool} {arguments : List (Text × Json)}
    {request : Request} (reads : Request.read tool arguments = .ok request) (world : World Files) :
    callTool setup tool.name arguments world = request.answer setup world := by
  simp only [callTool, Tool.ofName?_name, reads]

/-- Either there is an error, whatever was to be done next, or a text is read and the next thing is
done with it. -/
theorem perform_withFile (path : Text) (world : World Files) :
    (∃ outcome, IsFailure (recordOf outcome) ∧
      ∀ next, (withFile path next).perform world = (outcome, world)) ∨
    ∃ text, ∀ next, (withFile path next).perform world = (next text).perform world := by
  have asks (next : Text → Work Files Json) : (withFile path next).perform world =
      match Disk.isFile world.files (Path.ofText path) with
      | .ok true => (Work.readText (Path.ofText path) >>= next).perform world
      | .ok false => (.ok (errorRecord (notFoundMessage path)), world)
      | .error fault => (.error (.file fault), world) := by
    rw [withFile, perform_bind, perform_ask]
    rcases Disk.isFile world.files (Path.ofText path) with fault | isThere
    · rfl
    · cases isThere <;> rfl
  rcases isThere : Disk.isFile world.files (Path.ofText path) with fault | _ | _
  · refine .inl ⟨.error (.file fault), .failed _, fun next => ?_⟩
    rw [asks, isThere]
  · refine .inl ⟨.ok (errorRecord (notFoundMessage path)), .notFound path, fun next => ?_⟩
    rw [asks, isThere]
  · cases reads : textAt world.files (Path.ofText path) with
    | error failure =>
      refine .inl ⟨.error failure, .failed failure, fun next => ?_⟩
      rw [asks, isThere, perform_bind, perform_readText, reads]
    | ok text =>
      refine .inr ⟨text, fun next => ?_⟩
      rw [asks, isThere, perform_bind, perform_readText, reads]

/-- Making a plan changes nothing. -/
theorem perform_planFor (setup : Setup) (document : Json) (source : Path) (target : PlanTarget)
    (world : World Files) :
    ∃ outcome, (planFor setup document source target).perform world = (outcome, world) := by
  rw [planFor, perform_bind, perform_ask]
  cases Disk.resolve world.files source with
  | error fault => exact ⟨_, rfl⟩
  | ok place => exact ⟨_, perform_ofExcept .ofPlan _ world⟩

/-- Whether a plan is to be written is asked when there is one. -/
theorem perform_buildPlan (setup : Setup) (source : Text) (method? : Option Text)
    (order? : Option ActionOrder) (baseUrl? : Option Text) (world : World Files) :
    (∃ outcome, IsFailure (recordOf outcome) ∧ ∀ write?,
      ((Request.buildPlan source method? order? baseUrl? write?).perform setup).perform world =
        (outcome, world)) ∨
    ∃ plan : Plan, ∀ write?,
      ((Request.buildPlan source method? order? baseUrl? write?).perform setup).perform world =
        if write?.getD setup.settings.writePlans then
          (writePlan plan (Path.ofText source) >>= fun beside =>
            pure (withField plan.toJson "plan_path" (.string beside.toText))).perform world
        else (.ok plan.toJson, world) := by
  obtain ⟨outcome, isFailure, done⟩ | ⟨text, done⟩ := perform_withFile source world
  · exact .inl ⟨outcome, isFailure, fun write? => done _⟩
  obtain ⟨outcome, plans⟩ := perform_planFor setup
    (Extraction.ofSource text method? (setup.order order?)).toJson (Path.ofText source)
    (setup.target baseUrl?) world
  cases outcome with
  | error failure =>
    refine .inl ⟨.error failure, .failed failure, fun write? => ?_⟩
    rw [Request.perform, done, perform_bind, plans]
  | ok plan =>
    refine .inr ⟨plan, fun write? => ?_⟩
    rw [Request.perform, done, perform_bind, plans]
    dsimp only
    split <;> rfl

/-- The source beside which a request writes a plan, if it is to. -/
def Request.planSource? (setup : Setup) : Request → Option Path
  | .buildPlan source _ _ _ write? =>
      if write?.getD setup.settings.writePlans then some (Path.ofText source) else none
  | _ => none

/-- Only a request for a plan is one to write. -/
theorem Request.tool_of_planSource? {setup : Setup} {request : Request} {source : Path}
    (asked : request.planSource? setup = some source) : request.tool = .buildPlan := by
  cases request with
  | buildPlan => rfl
  | _ => cases asked

/-- If a call is to write a plan, asking it not to write leaves the rest of its request. -/
theorem callTool_putField_write {setup : Setup} {tool : Tool} {arguments : List (Text × Json)}
    {request : Request} {source : Path} (reads : Request.read tool arguments = .ok request)
    (asked : request.planSource? setup = some source) (world : World Files) :
    callTool setup tool.name (Json.putField "write" (.bool false) arguments) world =
      request.unwritten.answer setup world := by
  obtain rfl : Tool.buildPlan = tool :=
    (Request.tool_of_planSource? asked).symm.trans (Request.tool_of_read reads)
  exact callTool_of_read setup (Request.read_putField_write reads) world

end Parts

/-! ### Writing a plan -/

section Writing

open LawfulDisk

variable {Files : Type} [Disk Files] [LawfulDisk Files]

/-- What becomes of the files if a text is to be written to a path: its file holds the text; or the
text has no bytes, and its file is left empty; or writing fails, and its file may hold anything. In
the last two cases there is a failure. No other file is changed in any case. -/
inductive Writes (files : Files) (path : Path) (text : Text) : Option Failure → Files → Prop where
  | done {after : Files} (puts : Puts files after path text) : Writes files path text none after
  | emptied {after : Files} {fault : Utf8.HalfFault} (noBytes : Utf8.halfFault? text = some fault)
      (puts : Puts files after path []) :
      Writes files path text (some (.unencodable fault)) after
  | broken {after : Files} {fault : FileFault} {part : Text} (isPart : part = text ∨ part = [])
      (failed : Disk.write files path part = (.error fault, after))
      (others : SameBut files after path) :
      Writes files path text (some (.file fault)) after

/-- Writing a text comes to one of the three ends, and the failure is told. -/
theorem writes_writeText (path : Path) (text : Text) (world : World Files) :
    ∃ failure? after,
      Writes world.files path text failure? after ∧
        (Work.writeText path text).perform world =
          (failure?.elim (.ok ()) .error, { world with files := after }) := by
  rw [perform_writeText]
  cases bytes : Utf8.halfFault? text with
  | none =>
    have others := sameBut_write world.files path text
    rcases outcome : Disk.write world.files path text with ⟨fault | wrote, after⟩
    · rw [outcome] at others
      exact ⟨some (.file fault), after, .broken (.inl rfl) outcome others, rfl⟩
    · have puts := puts_write (congrArg Prod.fst outcome)
      rw [outcome] at puts
      exact ⟨none, after, .done puts, rfl⟩
  | some half =>
    have others := sameBut_write world.files path []
    rcases outcome : Disk.write world.files path [] with ⟨fault | wrote, after⟩
    · rw [outcome] at others
      exact ⟨some (.file fault), after, .broken (.inr rfl) outcome others, rfl⟩
    · have puts := puts_write (congrArg Prod.fst outcome)
      rw [outcome] at puts
      exact ⟨some (.unencodable half), after, .emptied bytes puts, rfl⟩

/-- Writing a plan fails and changes nothing, or its text is written beside its source. -/
theorem perform_writePlan (plan : Plan) (source : Path) (world : World Files) :
    (∃ failure, (writePlan plan source).perform world = (.error failure, world)) ∨
    ∃ beside failure? after, source.planPath = .ok beside ∧
      Writes world.files beside plan.toJson.printDocument failure? after ∧
      (writePlan plan source).perform world =
        (failure?.elim (.ok beside) .error, { world with files := after }) := by
  rw [writePlan, perform_bind, perform_ofExcept]
  cases source.planPath with
  | error noName => exact .inl ⟨_, rfl⟩
  | ok beside =>
    obtain ⟨failure?, after, writes, outcome⟩ :=
      writes_writeText beside plan.toJson.printDocument world
    refine .inr ⟨beside, failure?, after, rfl, writes, ?_⟩
    simp only [Except.mapError, perform_bind, outcome]
    cases failure? <;> rfl

/-! ### How a request ends -/

/-- How a request ends: what its record is and what becomes of the files. -/
inductive Ends (setup : Setup) (request : Request) (world : World Files) :
    Json → World Files → Prop where
  /-- Nothing is written, because something went wrong or because it was not asked for. -/
  | unwritten {record : Json} {after : World Files} (keeps : after.files = world.files)
      (kind : IsFailure record ∨ IsResult record ∧ request.planSource? setup = none) :
      Ends setup request world record after
  /-- The plan is written beside its source, unless that fails. -/
  | written {plan : Plan} {source beside : Path} {failure? : Option Failure} {after : World Files}
      (asked : request.planSource? setup = some source)
      (planned : request.unwritten.answer setup world = (plan.toJson, world))
      (isBeside : source.planPath = .ok beside)
      (writes : Writes world.files beside plan.toJson.printDocument failure? after.files) :
      Ends setup request world
        (recordOf (failure?.elim
          (.ok (withField plan.toJson "plan_path" (.string beside.toText))) .error)) after

/-- Nothing is written by a request that reads a file and gives a record of it. -/
theorem Request.ends_withFile {setup : Setup} {request : Request} {source : Text}
    {record : Text → Json} (isResult : ∀ text, IsResult (record text))
    (unasked : request.planSource? setup = none) (world : World Files)
    (performs : request.perform setup =
      (withFile source fun text => pure (record text) : Work Files Json)) :
    Ends setup request world (request.answer setup world).1 (request.answer setup world).2 := by
  rw [answer_eq, performs]
  obtain ⟨outcome, isFailure, done⟩ | ⟨text, done⟩ := perform_withFile source world
  · rw [done]
    exact .unwritten rfl (.inl isFailure)
  · rw [done]
    exact .unwritten rfl (.inr ⟨isResult text, unasked⟩)

/-- Compiling writes no file of ours. -/
theorem Request.ends_compile (setup : Setup) (source classpath : Text) (world : World Files) :
    Ends setup (compile source classpath) world ((compile source classpath).answer setup world).1
      ((compile source classpath).answer setup world).2 := by
  have keeps := files_of_compile setup.compiler
    { binary := setup.settings.compiler, classpath, source } setup.settings.compileTimeout world
  rw [answer_eq, Request.perform, perform_bind]
  rcases outcome : (setup.compiler.compile
    { binary := setup.settings.compiler, classpath, source }
    setup.settings.compileTimeout).perform world with ⟨failure | compiled, after⟩
  · rw [outcome] at keeps
    exact .unwritten keeps (.inl (.failed failure))
  · rw [outcome] at keeps
    exact .unwritten keeps (.inr ⟨compiled.isResult, rfl⟩)

/-- A plan is written last, if it is to be written at all. -/
theorem Request.ends_buildPlan (setup : Setup) (source : Text) (method? : Option Text)
    (order? : Option ActionOrder) (baseUrl? : Option Text) (write? : Option Bool)
    (world : World Files) :
    Ends setup (buildPlan source method? order? baseUrl? write?) world
      ((buildPlan source method? order? baseUrl? write?).answer setup world).1
      ((buildPlan source method? order? baseUrl? write?).answer setup world).2 := by
  rw [answer_eq]
  obtain ⟨outcome, isFailure, done⟩ | ⟨plan, done⟩ :=
    perform_buildPlan setup source method? order? baseUrl? world
  · rw [done]
    exact .unwritten rfl (.inl isFailure)
  have planned : (buildPlan source method? order? baseUrl? (some false)).answer setup world =
      (plan.toJson, world) := by
    rw [answer_eq, done]
    rfl
  rw [done]
  split_ifs with writes
  · have asked : (buildPlan source method? order? baseUrl? write?).planSource? setup =
        some (Path.ofText source) := if_pos writes
    obtain ⟨failure, refused⟩ | ⟨beside, failure?, after, isBeside, written, outcome⟩ :=
      perform_writePlan plan (Path.ofText source) world
    · rw [perform_bind, refused]
      exact .unwritten rfl (.inl (.failed failure))
    · have writes : Writes world.files beside plan.toJson.printDocument failure?
          ({ world with files := after } : World Files).files := written
      rw [perform_bind, outcome]
      cases failure? <;> exact .written asked planned isBeside writes
  · have unasked : (buildPlan source method? order? baseUrl? write?).planSource? setup = none :=
      if_neg writes
    exact .unwritten rfl (.inr ⟨plan.isResult, unasked⟩)

/-- Every request ends in one of the two ways. -/
theorem Request.ends_answer (setup : Setup) (request : Request) (world : World Files) :
    Ends setup request world (request.answer setup world).1 (request.answer setup world).2 := by
  cases request with
  | validateSyntax source =>
    exact ends_withFile (fun _ => Java.SyntaxReport.isResult _) rfl world rfl
  | compile source classpath => exact ends_compile setup source classpath world
  | validateSpec report feature =>
    exact ends_withFile (Report.isResult_coverageRecord · feature) rfl world rfl
  | extractActions source method? order? =>
    exact ends_withFile (fun _ => Extraction.isResult _) rfl world rfl
  | buildPlan source method? order? baseUrl? write? =>
    exact ends_buildPlan setup source method? order? baseUrl? write? world

/-! ### Calls -/

/-- The source beside which a call writes a plan, if it is to. -/
def planSource? (setup : Setup) (name : Text) (arguments : List (Text × Json)) : Option Path :=
  match Tool.ofName? name with
  | none => none
  | some tool =>
      match Request.read tool arguments with
      | .error _ => none
      | .ok request => request.planSource? setup

/-- The record without the fields of a name. -/
def withoutField (record : Json) (name : Text) : Json :=
  match record with
  | .object fields => .object (fields.filter (·.1 ≠ name))
  | other => other

/-- Without its path a written plan is the plan. -/
theorem Plan.withoutField_withField (plan : Plan) (path : Json) :
    withoutField (withField plan.toJson "plan_path" path) "plan_path" = plan.toJson :=
  rfl

/-- The call fails while it writes its plan, which is its record if it is not to write, and the
record names the failure. No file but that of the plan is changed. -/
def FailsToWrite (setup : Setup) (name : Text) (arguments : List (Text × Json))
    (world : World Files) (record : Json) (after : World Files) : Prop :=
  ∃ source beside failure,
    planSource? setup name arguments = some source ∧ source.planPath = .ok beside ∧
    Writes world.files beside
      (callTool setup name (Json.putField "write" (.bool false) arguments) world).1.printDocument
      (some failure) after.files ∧
    record = errorRecord failure.message

/-- What a call does to the files, as its record tells. -/
structure Framed (setup : Setup) (name : Text) (arguments : List (Text × Json))
    (world : World Files) (record : Json) (after : World Files) : Prop where
  isObject : ∃ fields, record = .object fields
  /-- With an error no file is changed, unless it is writing the plan that fails. -/
  error : HasError record →
    after.files = world.files ∨ FailsToWrite setup name arguments world record after
  /-- If no plan is to be written, no file is changed. -/
  unasked : planSource? setup name arguments = none → after.files = world.files
  /-- One file is written, at the path beside that of the source, and it holds the record apart
  from its own path. All others hold what they did. -/
  written (source : Path) : planSource? setup name arguments = some source → ¬ HasError record →
    ∃ beside, source.planPath = .ok beside ∧
      record.field? "plan_path" = some (.string beside.toText) ∧
      Puts world.files after.files beside (withoutField record "plan_path").printDocument

theorem Framed.of_hasError {setup : Setup} {name : Text} {arguments : List (Text × Json)}
    {world : World Files} {record : Json} (hasError : HasError record) :
    Framed setup name arguments world record world where
  isObject := hasError.isObject
  error _ := .inl rfl
  unasked _ := rfl
  written _ _ noError := absurd hasError noError

/-- The record of a request that ends so tells what it did. -/
theorem framed_of_ends {setup : Setup} {tool : Tool} {arguments : List (Text × Json)}
    {world after : World Files} {request : Request} {record : Json}
    (reads : Request.read tool arguments = .ok request)
    (ends : Ends setup request world record after) :
    Framed setup tool.name arguments world record after := by
  have same : planSource? setup tool.name arguments = request.planSource? setup := by
    simp only [planSource?, Tool.ofName?_name, reads]
  cases ends with
  | unwritten keeps kind =>
    refine ⟨?_, fun _ => .inl keeps, fun _ => keeps, fun source asked noError => ?_⟩
    · exact kind.elim (·.hasError.isObject) (·.1.isObject)
    · obtain isFailure | ⟨_, unasked⟩ := kind
      · exact absurd isFailure.hasError noError
      · rw [same, unasked] at asked
        cases asked
  | @written plan source beside failure? _ asked planned isBeside writes =>
    have notUnasked : planSource? setup tool.name arguments ≠ none := by
      rw [same, asked]
      exact Option.some_ne_none _
    cases failure? with
    | none =>
      have isResult := plan.isResult_withField (.string beside.toText)
      refine ⟨isResult.isObject, fun hasError => absurd hasError isResult.noError,
        fun unasked => absurd unasked notUnasked, fun found isSource _ => ?_⟩
      obtain rfl : source = found := Option.some.inj ((same.trans asked).symm.trans isSource)
      refine ⟨beside, isBeside, rfl, ?_⟩
      rw [Option.elim, recordOf, plan.withoutField_withField]
      cases writes with
      | done puts => exact puts
    | some failure =>
      have hasError := hasError_errorRecord failure.message
      refine ⟨hasError.isObject, fun _ => .inr ?_, fun unasked => absurd unasked notUnasked,
        fun _ _ noError => absurd hasError noError⟩
      refine ⟨source, beside, failure, same.trans asked, isBeside, ?_, rfl⟩
      -- The same request without the order to write tells which plan it was.
      rw [callTool_putField_write reads asked, planned]
      exact writes

/-- Every call of a tool gives a record that tells what it did to the files. The path of a plan is
never that of its source, and without links it does not lead to the same place. -/
theorem callTool_framed {setup : Setup} {name : Text} {arguments : List (Text × Json)}
    {world after : World Files} {record : Json}
    (called : callTool setup name arguments world = (record, after)) :
    Framed setup name arguments world record after ∧
      ∀ path : Path, path.name ≠ [] → ∃ beside, path.planPath = .ok beside ∧ beside ≠ path ∧
        ∀ files : FileSystem, fileOf files beside ≠ fileOf files path := by
  refine ⟨?_, fun path named => ?_⟩
  · rw [callTool] at called
    cases named : Tool.ofName? name with
    | none =>
      rw [named] at called
      cases called
      exact .of_hasError (hasError_errorRecord _)
    | some tool =>
      obtain rfl := Tool.name_of_ofName? named
      rw [named] at called
      cases reads : Request.read tool arguments with
      | error faults =>
        simp only [reads] at called
        cases called
        exact .of_hasError (hasError_errorRecord _)
      | ok request =>
        simp only [reads] at called
        have ends := request.ends_answer setup world
        rw [called] at ends
        exact framed_of_ends reads ends
  · have isBeside := Path.planPath_of_name_ne_nil named
    exact ⟨_, isBeside, Path.planPath_ne isBeside, fun files => files.placeOf_planPath_ne isBeside⟩

end Writing

/-! ### A plan that is written, and two that are not as they should be -/

/-- The default settings at a fixed time. -/
def sampleSetup : Setup where
  clock := "2024-01-02T03:04:05+00:00"

/-- A folder with a test that does nothing. -/
def sampleFiles : FileSystem :=
  (FileSystem.empty ["work"]).addFile ["work", "A.java"] (.text "@Test void a() \x7b\x7d")

/-- A world with the folder in it. -/
def sampleWorld : World where
  files := sampleFiles

/-- The same folder, in which the name of the plan is a link to the test. -/
def linkedWorld : World LinkedFiles where
  files :=
    { files := sampleFiles
      links := [(["work", "A.playwright-plan.json"], ["work", "A.java"])] }

/-- The arguments of a call for a plan of the test. -/
def sampleArguments : List (Text × Json) :=
  [("java_path", .string "A.java")]

/-- A plan of the test is written beside it. -/
theorem callTool_framed_sampleWorld :
    ∃ record after,
      callTool sampleSetup "build_plan" sampleArguments sampleWorld = (record, after) ∧
      planSource? sampleSetup "build_plan" sampleArguments = some (Path.ofText "A.java") ∧
      ¬ HasError record ∧
      ∃ beside, (Path.ofText "A.java").planPath = .ok beside ∧
        record.field? "plan_path" = some (.string beside.toText) ∧
        LawfulDisk.Puts sampleWorld.files after.files beside
          (withoutField record "plan_path").printDocument := by
  cases called : callTool sampleSetup "build_plan" sampleArguments sampleWorld with
  | mk record after =>
    have asked : planSource? sampleSetup "build_plan" sampleArguments =
        some (Path.ofText "A.java") := by decide +kernel
    have noError : ¬ HasError
        (callTool sampleSetup "build_plan" sampleArguments sampleWorld).1 := by decide +kernel
    rw [called] at noError
    exact ⟨record, after, rfl, asked, noError,
      (callTool_framed called).1.written _ asked noError⟩

/-- A base address that is half of a UTF-16 pair: there is an error, and a file all the same. And if
the name of the plan is a link to the test, the test is overwritten. -/
theorem emptyPlan_of_halfAddress_of_link :
    let arguments := sampleArguments ++ [Json.textField "base_url" [Text.ofHalf 0xd800]]
    (HasError (callTool sampleSetup "build_plan" arguments sampleWorld).1 ∧
      sampleFiles.contentAt ["work", "A.playwright-plan.json"] = none ∧
      (callTool sampleSetup "build_plan" arguments sampleWorld).2.files.contentAt
        ["work", "A.playwright-plan.json"] = some (.text [])) ∧
    ¬ HasError (callTool sampleSetup "build_plan" sampleArguments linkedWorld).1 ∧
      (callTool sampleSetup "build_plan" sampleArguments linkedWorld).2.files.files.contentAt
        ["work", "A.java"] ≠ sampleFiles.contentAt ["work", "A.java"] := by
  decide +kernel

end BrowserPlan
