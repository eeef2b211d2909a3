/-
This file proves how a call of the compiler is classified, whatever the compiler does.

There are four ways a call can go and three classes, and each way belongs to one of them. A failed
run should also say what went wrong. It does, unless the compiler wrote something and this is all
blank: then it is taken for the message, but no line of it is left.

Some calls have no class at all. Nothing can be said of the source, there is no folder for the
results, the compiler is refused by the system for another reason than that it is not found, or what
it wrote is no text: then the call breaks off.
-/

import BrowserPlan.Proofs.Text.Lines
import BrowserPlan.Proofs.Work
import BrowserPlan.Tool.Compiler

namespace BrowserPlan

/-! ### How a call can go -/

namespace Compiler

variable (compiler : Compiler) (call : CompilerCall)

/-- The compiler is there, and it runs like that for the call. -/
def Runs (run : CompilerRun) : Prop :=
  compiler.isAvailable = true ∧ compiler.runOf call = .ok run

/-- The compiler is not there, is not found when it is started or runs too long. -/
def IsUnusable : Prop :=
  compiler.isAvailable = false ∨
    (∃ reason, compiler.Runs call (.notStarted (.system 2 reason))) ∨
    compiler.Runs call .timeout

/-- The compiler runs to its end and writes two texts. -/
def Ends (code : Int) (output errors : Text) : Prop :=
  compiler.Runs call (.ended code (.text output) (.text errors))

/-- The compiler fails, and of its two outputs the first that is not empty is blank. -/
def FailsBlankly : Prop :=
  ∃ code output errors, compiler.Ends call code output errors ∧ code ≠ 0 ∧
    (errors ≠ [] ∧ Text.isAllBlank errors = true ∨
      errors = [] ∧ output ≠ [] ∧ Text.isAllBlank output = true)

end Compiler

/-- Why a run has no outcome: the system refuses to start the compiler, though not because it is not
found, or what it wrote is no text. -/
inductive CompilerRun.Breaks (binary : Text) : CompilerRun → Failure → Prop where
  | start {fault : StartFault} (other : ∀ reason, fault ≠ .system 2 reason) :
      Breaks binary (.notStarted fault) (.start fault binary)
  | output {code : Int} {bytes : List UInt8} {fault : Utf8.Fault} {errors : Content} :
      Breaks binary (.ended code (.bytes bytes fault) errors) (.encoding fault)
  | errors {code : Int} {output : Text} {bytes : List UInt8} {fault : Utf8.Fault} :
      Breaks binary (.ended code (.text output) (.bytes bytes fault)) (.encoding fault)

/-- Why a call breaks off: nothing can be said of the source, or it is there but there is no folder
for the results, the folder cannot be removed, or the run has no outcome. -/
inductive Compiler.BreaksOff {Files : Type} [Disk Files] (compiler : Compiler)
    (call : CompilerCall) (files : Files) : Failure → Prop where
  | source {fault : FileFault}
      (asked : Disk.exists? files (Path.ofText call.source) = .error fault) :
      BreaksOff compiler call files (.file fault)
  | folder {fault : FileFault} (isThere : Disk.exists? files (Path.ofText call.source) = .ok true)
      (isAvailable : compiler.isAvailable = true) (noFolder : compiler.folder = .error fault) :
      BreaksOff compiler call files (.file fault)
  | leftover {run : CompilerRun} {fault : FileFault}
      (isThere : Disk.exists? files (Path.ofText call.source) = .ok true)
      (runs : compiler.Runs call run) (left : compiler.leftover? = some fault) :
      BreaksOff compiler call files (.file fault)
  | run {run : CompilerRun} {failure : Failure}
      (isThere : Disk.exists? files (Path.ofText call.source) = .ok true)
      (runs : compiler.Runs call run) (removed : compiler.leftover? = none)
      (breaks : run.Breaks call.binary failure) :
      BreaksOff compiler call files failure

/-- The outcome is in the class that the call belongs to, where `isThere` says whether there is a
source. It lists what went wrong just if it is an error, unless the compiler fails blankly. -/
structure CompileOutcome.Classifies (outcome : CompileOutcome) (compiler : Compiler)
    (call : CompilerCall) (isThere : Bool) : Prop where
  error_iff : outcome.status = .error ↔
    isThere = false ∨ ∃ code output errors, compiler.Ends call code output errors ∧ code ≠ 0
  skipped_iff : outcome.status = .skipped ↔ isThere = true ∧ compiler.IsUnusable call
  ok_iff : outcome.status = .ok ↔
    isThere = true ∧ ∃ output errors, compiler.Ends call 0 output errors
  lines : isThere = true → (∃ code output errors, compiler.Ends call code output errors) →
    ∀ line ∈ outcome.errors, Text.IsFilledLine line
  diagnosed_iff : (outcome.errors ≠ [] ↔ outcome.status = .error) ↔
    ¬ (isThere = true ∧ compiler.FailsBlankly call)

/-- What a call comes to is accounted for: there is a reason why it breaks off, or there is none and
its outcome is in its class. -/
def Compiler.Accounts {Files : Type} [Disk Files] (compiler : Compiler) (call : CompilerCall)
    (files : Files) : Except Failure CompileOutcome → Prop
  | .error failure => compiler.BreaksOff call files failure
  | .ok outcome =>
      (∀ failure, ¬ compiler.BreaksOff call files failure) ∧
        ∃ isThere, Disk.exists? files (Path.ofText call.source) = .ok isThere ∧
          outcome.Classifies compiler call isThere

/-! ### Classes -/

section Classes

variable {compiler : Compiler} {call : CompilerCall}

/-- Of two runs for a call there is only one. -/
theorem Compiler.Runs.unique {run other : CompilerRun} (runs : compiler.Runs call run)
    (again : compiler.Runs call other) : other = run :=
  Except.ok.inj (again.2.symm.trans runs.2)

/-- A compiler that runs to its end does so in one way only. -/
theorem Compiler.Ends.unique {code other : Int} {output errors before after : Text}
    (ends : compiler.Ends call code output errors)
    (again : compiler.Ends call other before after) :
    other = code ∧ before = output ∧ after = errors := by
  cases Compiler.Runs.unique ends again
  exact ⟨rfl, rfl, rfl⟩

theorem Compiler.Ends.not_isUnusable {code : Int} {output errors : Text}
    (ends : compiler.Ends call code output errors) : ¬ compiler.IsUnusable call := by
  rintro (missing | ⟨reason, notFound⟩ | timeout)
  · exact Bool.noConfusion (missing.symm.trans ends.1)
  · cases notFound.unique ends
  · cases timeout.unique ends

theorem classifies_notFound (compiler : Compiler) (call : CompilerCall) :
    CompileOutcome.Classifies
      { status := .error, errors := ["File not found: " ++ call.source] } compiler call false where
  error_iff := by simp
  skipped_iff := by simp
  ok_iff := by simp
  lines := nofun
  diagnosed_iff := by simp

/-- With a compiler that cannot be used the step is skipped. -/
theorem classifies_skipped (unusable : compiler.IsUnusable call) {outcome : CompileOutcome}
    (skipped : outcome.status = .skipped) (quiet : outcome.errors = []) :
    outcome.Classifies compiler call true := by
  have noEnd (code : Int) (output errors : Text) : ¬ compiler.Ends call code output errors :=
    fun ends => ends.not_isUnusable unusable
  constructor <;> simp [skipped, quiet, noEnd, unusable, Compiler.FailsBlankly]

/-- The message of a failed run is blank just if the compiler fails blankly. -/
theorem isAllBlank_firstFilled_iff (output errors : Text) {ending : Text}
    (isSaid : Text.isAllBlank ending = false) :
    Text.isAllBlank (firstFilled [errors, output] ending) = true ↔
      (errors ≠ [] ∧ Text.isAllBlank errors = true ∨
        errors = [] ∧ output ≠ [] ∧ Text.isAllBlank output = true) := by
  rw [firstFilled, firstFilled, firstFilled]
  by_cases noErrors : errors = [] <;> by_cases noOutput : output = [] <;>
    simp [noErrors, noOutput, isSaid]

/-- A failed run fails blankly just if no line of its message is left. -/
theorem Compiler.Ends.failsBlankly_iff {code : Int} {output errors : Text}
    (ends : compiler.Ends call code output errors) (failed : code ≠ 0) {ending : Text}
    (isSaid : Text.isAllBlank ending = false) :
    compiler.FailsBlankly call ↔
      Text.filledLines (firstFilled [errors, output] ending) = [] := by
  rw [Text.filledLines_eq_nil_iff, isAllBlank_firstFilled_iff output errors isSaid]
  constructor
  · rintro ⟨_, _, _, again, _, blank⟩
    obtain ⟨rfl, rfl, rfl⟩ := ends.unique again
    exact blank
  · exact fun blank => ⟨code, output, errors, ends, failed, blank⟩

theorem classifies_success {output errors : Text} (ends : compiler.Ends call 0 output errors)
    {outcome : CompileOutcome} (success : outcome.status = .ok) (quiet : outcome.errors = []) :
    outcome.Classifies compiler call true := by
  have noFailure (code : Int) (before after : Text) :
      compiler.Ends call code before after → code = 0 := fun again => (ends.unique again).1
  constructor
  · simpa [success] using noFailure
  · simp [success, ends.not_isUnusable]
  · simpa [success] using ⟨output, errors, ends⟩
  · simp [quiet]
  · simp only [success, quiet, ne_eq, not_true_eq_false, reduceCtorEq, true_and, true_iff]
    exact fun ⟨code, before, after, again, failed, _⟩ => failed (noFailure code before after again)

/-- A run that ends with another code is an error and tells the lines of its message. -/
theorem classifies_failure {code : Int} {output errors ending : Text}
    (ends : compiler.Ends call code output errors) (failed : code ≠ 0)
    (isSaid : Text.isAllBlank ending = false) {outcome : CompileOutcome}
    (failure : outcome.status = .error)
    (told : outcome.errors = Text.filledLines (firstFilled [errors, output] ending)) :
    outcome.Classifies compiler call true := by
  have noSuccess (before after : Text) : ¬ compiler.Ends call 0 before after := fun again =>
    failed (ends.unique again).1.symm
  constructor
  · simpa [failure] using ⟨code, ⟨output, errors, ends⟩, failed⟩
  · simp [failure, ends.not_isUnusable]
  · simp [failure, noSuccess]
  · intro _ _ line member
    rw [told] at member
    exact Text.isFilledLine_of_mem_filledLines member
  · rw [ends.failsBlankly_iff failed isSaid, told]
    simp [failure]

/-- A run that ends is a success or an error, as its code says. -/
theorem classifies_ended {code : Int} {output errors : Text}
    (ends : compiler.Ends call code output errors) (binary : Text) :
    (endedOutcome binary code output errors).Classifies compiler call true := by
  rw [endedOutcome]
  split_ifs with success
  · obtain rfl := success
    exact classifies_success ends rfl rfl
  · have isSaid : Text.isAllBlank (binary ++ " exited with " ++ Text.ofInt code) = false := by
      have middle : (" exited with " : Text).all Text.isBlank = false := rfl
      rw [Text.isAllBlank, List.all_append, List.all_append, middle, Bool.and_false,
        Bool.false_and]
    exact classifies_failure ends success isSaid rfl rfl

/-- A run has an outcome in the class of its call, or there is a reason why it has none. -/
theorem outcome_classified {run : CompilerRun} (runs : compiler.Runs call run) (limit : Number) :
    match run.outcome call.binary limit with
    | .error failure => run.Breaks call.binary failure
    | .ok outcome =>
        (∀ failure, ¬ run.Breaks call.binary failure) ∧ outcome.Classifies compiler call true := by
  cases run with
  | notStarted fault =>
    by_cases notFound : ∃ reason, fault = .system 2 reason
    · obtain ⟨reason, rfl⟩ := notFound
      refine ⟨?_, classifies_skipped (.inr (.inl ⟨reason, runs⟩)) rfl rfl⟩
      rintro failure ⟨other⟩
      exact other reason rfl
    · have other (reason : Text) : fault ≠ .system 2 reason := fun same =>
        notFound ⟨reason, same⟩
      have fails : (CompilerRun.notStarted fault).outcome call.binary limit =
          .error (.start fault call.binary) := by
        rw [CompilerRun.outcome]
        exact other
      rw [fails]
      exact .start other
  | timeout => exact ⟨nofun, classifies_skipped (.inr (.inr runs)) rfl rfl⟩
  | ended code output errors =>
    cases output with
    | bytes bytes fault => exact .output
    | text output =>
      cases errors with
      | bytes bytes fault => exact .errors
      | text errors => exact ⟨nofun, classifies_ended runs call.binary⟩

end Classes

/-! ### Calls -/

section Calls

variable {Files : Type} [Disk Files]

/-- What compiling comes to and what it does, in the order in which things are asked. -/
theorem perform_compile (compiler : Compiler) (call : CompilerCall) (limit : Number)
    (world : World Files) :
    (compiler.compile call limit).perform world =
      match Disk.exists? world.files (Path.ofText call.source) with
      | .error fault => (.error (.file fault), world)
      | .ok false =>
          (.ok { status := .error, errors := ["File not found: " ++ call.source] }, world)
      | .ok true =>
          if compiler.isAvailable = false then (.ok (notFoundOutcome call.binary), world)
          else
            match compiler.runOf call with
            | .error fault => (.error (.file fault), world)
            | .ok run =>
                (match compiler.leftover? with
                  | some fault => .error (.file fault)
                  | none => run.outcome call.binary limit,
                  { world with calls := world.calls ++ [call] }) := by
  rw [Compiler.compile, Work.perform_bind, Work.perform_ask]
  rcases Disk.exists? world.files (Path.ofText call.source) with fault | _ | _
  · rfl
  · rfl
  · cases compiler.isAvailable with
    | false => rfl
    | true =>
      show (Work.ofExcept .file (compiler.runOf call) >>= _).perform world = _
      rw [Work.perform_bind, Work.perform_ofExcept]
      cases compiler.runOf call with
      | error fault => rfl
      | ok run =>
        cases compiler.leftover? with
        | some fault => rfl
        | none =>
          show (Work.ofExcept id (run.outcome call.binary limit)).perform _ =
            (run.outcome call.binary limit, { world with calls := world.calls ++ [call] })
          rw [Work.perform_ofExcept]
          cases run.outcome call.binary limit <;> rfl

/-- The compiler works in a folder of its own. -/
theorem files_of_compile (compiler : Compiler) (call : CompilerCall) (limit : Number)
    (world : World Files) :
    ((compiler.compile call limit).perform world).2.files = world.files := by
  rw [perform_compile]
  rcases Disk.exists? world.files (Path.ofText call.source) with fault | _ | _
  · rfl
  · rfl
  · dsimp only
    split_ifs
    · rfl
    · cases compiler.runOf call <;> rfl

/-- Without a run it is the folder that is missing. -/
theorem Compiler.folder_of_runOf {compiler : Compiler} {call : CompilerCall} {fault : FileFault}
    (ran : compiler.runOf call = .error fault) : compiler.folder = .error fault := by
  rw [runOf] at ran
  cases made : compiler.folder with
  | error other =>
    rw [made] at ran
    cases ran
    rfl
  | ok folder =>
    rw [made] at ran
    cases ran

/-- The system never says of words that the program is not found. -/
theorem ne_system_two_of_refusal? {words : List Text} {fault : StartFault}
    (refused : refusal? words = some fault) (reason : Text) : fault ≠ .system 2 reason := by
  rintro rfl
  rw [refusal?, Option.or_eq_some_iff] at refused
  obtain unusable | ⟨-, long⟩ := refused
  · obtain ⟨word, _, unusable⟩ := List.exists_of_findSome?_eq_some unusable
    rw [wordFault?] at unusable
    split at unusable
    · cases unusable
    · split_ifs at unusable
      cases unusable
  · split_ifs at long
    cases long

/-- Once the compiler runs and its folder is removed, only the run can have no outcome. -/
theorem Compiler.BreaksOff.breaks {compiler : Compiler} {call : CompilerCall} {files : Files}
    {failure : Failure} (breaksOff : compiler.BreaksOff call files failure)
    (isThere : Disk.exists? files (Path.ofText call.source) = .ok true) {run : CompilerRun}
    (runs : compiler.Runs call run) (removed : compiler.leftover? = none) :
    run.Breaks call.binary failure := by
  cases breaksOff with
  | source asked =>
    rw [isThere] at asked
    cases asked
  | folder _ _ noFolder =>
    have ran := runs.2
    rw [runOf, noFolder] at ran
    cases ran
  | leftover _ _ left =>
    rw [removed] at left
    cases left
  | run _ again _ breaks =>
    obtain rfl := runs.unique again
    exact breaks

theorem Compiler.not_breaksOff_of_missing {compiler : Compiler} {call : CompilerCall}
    {files : Files} (missing : Disk.exists? files (Path.ofText call.source) = .ok false)
    (failure : Failure) : ¬ compiler.BreaksOff call files failure := by
  intro breaksOff
  cases breaksOff <;> simp_all

theorem Compiler.not_breaksOff_of_unavailable {compiler : Compiler} {call : CompilerCall}
    {files : Files} (isThere : Disk.exists? files (Path.ofText call.source) = .ok true)
    (unavailable : compiler.isAvailable = false) (failure : Failure) :
    ¬ compiler.BreaksOff call files failure := by
  intro breaksOff
  cases breaksOff <;> simp_all [Runs]

/-- A call either breaks off, for one of the reasons to, or there is none and it has an outcome in
the class that it belongs to. -/
theorem compile_classified (compiler : Compiler) (call : CompilerCall) (limit : Number)
    (world : World Files) :
    compiler.Accounts call world.files ((compiler.compile call limit).perform world).1 := by
  rw [perform_compile]
  cases asked : Disk.exists? world.files (Path.ofText call.source) with
  | error fault => exact .source asked
  | ok isThere =>
    cases isThere with
    | false =>
      exact ⟨compiler.not_breaksOff_of_missing asked, false, asked,
        classifies_notFound compiler call⟩
    | true =>
      cases isAvailable : compiler.isAvailable with
      | false =>
        exact ⟨compiler.not_breaksOff_of_unavailable asked isAvailable, true, asked,
          classifies_skipped (.inl isAvailable) rfl rfl⟩
      | true =>
        cases ran : compiler.runOf call with
        | error fault => exact .folder asked isAvailable (Compiler.folder_of_runOf ran)
        | ok run =>
          have runs : compiler.Runs call run := ⟨isAvailable, ran⟩
          cases left : compiler.leftover? with
          | some fault => exact .leftover asked runs left
          | none =>
            have classified := outcome_classified runs limit
            show compiler.Accounts call world.files (run.outcome call.binary limit)
            cases outcome : run.outcome call.binary limit with
            | error failure =>
              rw [outcome] at classified
              exact .run asked runs left classified
            | ok compiled =>
              rw [outcome] at classified
              exact ⟨fun failure breaksOff => classified.1 failure
                (breaksOff.breaks asked runs left), true, asked, classified.2⟩

/-- A program that the system starts is refused words without bytes, with a null character or of
more than so many bytes, and then the call breaks off: a search path for libraries can do that. -/
theorem breaksOff_of_refusal? {compiler : Compiler} {program : List Text → CompilerRun}
    (isProgram : compiler.run = started program) {call : CompilerCall} {folder : Text}
    {fault : StartFault} (made : compiler.folder = .ok folder)
    (refused : refusal? (call.words folder) = some fault) {files : Files}
    (isThere : Disk.exists? files (Path.ofText call.source) = .ok true)
    (isAvailable : compiler.isAvailable = true) (removed : compiler.leftover? = none) :
    compiler.BreaksOff call files (.start fault call.binary) := by
  have runs : compiler.Runs call (.notStarted fault) := by
    refine ⟨isAvailable, ?_⟩
    rw [Compiler.runOf, made, isProgram]
    show Except.ok (started program (call.words folder)) = _
    rw [started, refused]
  exact .run isThere runs removed (.start (ne_system_two_of_refusal? refused))

end Calls

/-! ### A failure without a diagnosis -/

/-- A compiler that fails and writes nothing but blanks. -/
def blankFailure : Compiler :=
  { isAvailable := true, run := fun _ => .ended 1 (.text []) (.text " \n") }

/-- A source in the root as the current folder. -/
def sourceWorld : World :=
  { files := { here := [], entries := [(["A.java"], .file (.text "class A \x7b\x7d"))] } }

/-- The call is an error, and nothing says what went wrong. -/
theorem error_without_diagnosis :
    ∃ outcome after,
      (blankFailure.compile { binary := "javac", classpath := [], source := "A.java" }
        (.integer 30)).perform sourceWorld = (.ok outcome, after) ∧
      outcome.status = .error ∧ outcome.errors = [] :=
  ⟨_, _, rfl, rfl, rfl⟩

end BrowserPlan
