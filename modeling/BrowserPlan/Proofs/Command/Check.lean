/-
This file proves when the check of a store tells how many of its reports pass.

Each report gets its verdict from what is stored of it alone. But the verdicts are told together, so
one report without a verdict keeps back those of all others, if it or the Java text beside it is no
text. The table of the reports comes first, and it is one, so a name or an error that cannot be
shown or has no bytes does the same. In either case nothing is counted at all.
-/

import BrowserPlan.Command.Run
import BrowserPlan.Proofs.Command.Markup
import BrowserPlan.Proofs.Except
import BrowserPlan.Proofs.Report.Acceptance
import BrowserPlan.Proofs.Store.Check

namespace BrowserPlan

open Store Work

/-! ### What is printed -/

/-- The outcome tells how many reports have passed and failed: apart from blanks, nothing but that
is printed below the table, and the code is one if any failed. -/
structure IsTally (passed failed : Nat) (outcome : Outcome) : Prop where
  code : outcome.code = if failed = 0 then 0 else 1
  output : Text.inked outcome.output =
    ("PASS:" : Text) ++ Text.ofNat passed ++ (("FAIL:" : Text) ++ Text.ofNat failed)
  noCrash : outcome.crash? = none

/-- A crash before anything is printed ends with one. -/
def Crash.outcome (crash : Crash) : Outcome :=
  { code := 1, output := [], crash? := some crash }

/-- What is said of reports with the given errors. -/
def checkMessage (root : Path) (reports : List Path) (errors : List (List Text)) : Message :=
  let failed := errors.countP (!·.isEmpty)
  { code := if failed = 0 then 0 else 1
    styled := true
    table? := some (reportTable root reports errors)
    lines :=
      ["  PASS: " ++ Text.ofNat (reports.length - failed), "  FAIL: " ++ Text.ofNat failed] }

theorem isAlphanum_of_mem_ofNat {number : Nat} {char : Char} (member : char ∈ Text.ofNat number) :
    char.isAlphanum = true := by
  have digit : char.isDigit = true := Nat.isDigit_of_mem_toDigits (by decide) (by decide) member
  rw [Char.isAlphanum, digit, Bool.or_true]

theorem inked_ofNat (number : Nat) : Text.inked (Text.ofNat number) = Text.ofNat number := by
  refine List.filter_eq_self.mpr fun char member => ?_
  rw [Text.isBlank_of_isDigit (Report.isDigit_of_mem_ofNat member)]
  rfl

/-- A label with a colon and a number. -/
theorem isPlainLine_count {label : Text} (isPlain : label.all isPlainOnScreen = true)
    (oneColon : label.count ':' = 1) (number : Nat) :
    isPlainLine (label ++ Text.ofNat number) = true := by
  have noColon : ':' ∉ Text.ofNat number := fun member =>
    absurd (isAlphanum_of_mem_ofNat member) (by decide)
  have digits : (Text.ofNat number).all isPlainOnScreen = true :=
    List.all_eq_true.mpr fun char member => by
      rw [isPlainOnScreen, isAlphanum_of_mem_ofNat member, Bool.true_or, Bool.true_or]
  rw [isPlainLine, List.all_append, isPlain, digits, List.count_append, oneColon,
    List.count_eq_zero.mpr noColon]
  rfl

theorem inked_count (label : Text) (number : Nat) :
    Text.inked (label ++ Text.ofNat number) = Text.inked label ++ Text.ofNat number := by
  rw [Text.inked_append, inked_ofNat]

/-- The counts are printed if the table is; otherwise nothing is. -/
theorem print_checkMessage {screen : Screen} (isDocumented : screen.IsDocumented) (root : Path)
    (reports : List Path) (errors : List (List Text)) :
    match writeShown (screen.table (reportTable root reports errors)) with
    | .ok _ =>
        IsTally (reports.length - errors.countP (!·.isEmpty)) (errors.countP (!·.isEmpty))
          ((checkMessage root reports errors).print screen)
    | .error crash => (checkMessage root reports errors).print screen = crash.outcome := by
  have plain (line : Text) (member : line ∈ (checkMessage root reports errors).lines) :
      isPlainLine line = true := by
    obtain rfl | rfl := List.mem_pair.mp member
    · exact isPlainLine_count (by decide) (by decide) _
    · exact isPlainLine_count (by decide) (by decide) _
  obtain ⟨printed, all, inked⟩ :=
    (checkMessage root reports errors).printLines_of_isPlainLine isDocumented rfl plain
  cases written : writeShown (screen.table (reportTable root reports errors)) with
  | error crash => exact Message.print_of_error rfl written
  | ok table =>
    rw [Message.print_of_ok rfl written all]
    refine ⟨rfl, inked.trans ?_, rfl⟩
    rw [checkMessage, List.flatMap_cons, List.flatMap_cons, List.flatMap_nil, List.append_nil,
      inked_count, inked_count]
    rfl

/-! ### Rows of the table -/

/-- Every report has a verdict, and the table of them can be shown and written. -/
structure Tabled (screen : Screen) (leastTests : Int) (files : FileSystem) (root : Path)
    (reports : List Path) : Prop where
  readable : ∀ report ∈ reports, Readable files report
  table (errors : List (List Text)) (told : reports.mapM (errorsAt leastTests files) = .ok errors) :
    ∃ table, writeShown (screen.table (reportTable root reports errors)) = .ok table

section Rows

variable {screen : Screen} {leastTests : Int} {files : FileSystem} {root : Path}
  {reports : List Path} {errors : List (List Text)}

/-- If the verdicts are given, only the table can fail. -/
theorem tabled_iff (told : reports.mapM (errorsAt leastTests files) = .ok errors) :
    Tabled screen leastTests files root reports ↔
      ∃ table, writeShown (screen.table (reportTable root reports errors)) = .ok table := by
  refine ⟨fun tabled => tabled.table errors told, fun written => ⟨fun report member => ?_,
    fun others given => ?_⟩⟩
  · exact (exists_errorsAt_iff leastTests).mp (exists_mapM_iff.mp ⟨errors, told⟩ report member)
  · obtain rfl := Except.ok.inj (told.symm.trans given)
    exact written

/-- As many errors are told as there are reports, and none are told of those that pass. -/
theorem countP_errors (told : reports.mapM (errorsAt leastTests files) = .ok errors) :
    errors.countP (!·.isEmpty) = reports.countP (!passesAt leastTests files ·) := by
  have each := mapM_eq_ok_iff.mp told
  clear told
  induction each with
  | nil => rfl
  | cons here later inductionHypothesis =>
    rw [List.countP_cons, List.countP_cons, inductionHypothesis, isEmpty_of_errorsAt here]

end Rows

/-! ### What is done -/

section Check

variable {setup : Setup} {screen : Screen} {root? : Option Path} {world : World}
  {reports : List Path}

/-- The check of a store with reports says what the errors of each come to, and changes nothing. -/
theorem perform_check (workers : Int)
    (listed : Store.reports world.files (setup.storeRoot root?) = .ok reports)
    (notEmpty : reports ≠ []) :
    ((Command.check root? workers).perform setup).perform world =
      ((reports.mapM (errorsAt setup.settings.leastTests world.files)).map
        (checkMessage (setup.storeRoot root?) reports), world) := by
  rw [Command.perform, perform_bind, perform_ask, listed]
  obtain ⟨first, others, rfl⟩ := List.exists_cons_of_ne_nil notEmpty
  dsimp only [Except.mapError]
  rw [perform_bind,
    perform_mapM fun report => perform_checkStored setup.settings.leastTests report world]
  cases (first :: others).mapM (errorsAt setup.settings.leastTests world.files) <;> rfl

/-- What is printed of a check, or the failure of the first report without a verdict. -/
theorem run_check (workers : Int)
    (listed : Store.reports world.files (setup.storeRoot root?) = .ok reports)
    (notEmpty : reports ≠ []) :
    (Command.check root? workers).run setup screen world =
      match reports.mapM (errorsAt setup.settings.leastTests world.files) with
      | .ok errors => ((checkMessage (setup.storeRoot root?) reports errors).print screen, world)
      | .error failure => (Crash.outcome (.failure failure), world) := by
  rw [Command.run, perform_check workers listed notEmpty]
  cases reports.mapM (errorsAt setup.settings.leastTests world.files) <;> rfl

theorem not_isTally_outcome (passed failed : Nat) (crash : Crash) :
    ¬ IsTally passed failed crash.outcome :=
  fun isTally => nomatch isTally.noCrash

theorem countP_add_countP_passesAt (leastTests : Int) (files : FileSystem) (reports : List Path) :
    reports.countP (passesAt leastTests files) + reports.countP (!passesAt leastTests files ·) =
      reports.length := by
  rw [reports.length_eq_countP_add_countP (passesAt leastTests files)]
  simp

/-- Either the reports have their table, and the counts are printed, or nothing is. -/
theorem run_check_cases (isDocumented : screen.IsDocumented) (workers : Int)
    (listed : Store.reports world.files (setup.storeRoot root?) = .ok reports)
    (notEmpty : reports ≠ []) :
    (Tabled screen setup.settings.leastTests world.files (setup.storeRoot root?) reports ∧
      IsTally (reports.countP (passesAt setup.settings.leastTests world.files))
        (reports.countP (!passesAt setup.settings.leastTests world.files ·))
        ((Command.check root? workers).run setup screen world).1) ∨
    (¬ Tabled screen setup.settings.leastTests world.files (setup.storeRoot root?) reports ∧
      ∃ crash : Crash,
        ((Command.check root? workers).run setup screen world).1 = crash.outcome) := by
  rw [run_check workers listed notEmpty]
  cases told : reports.mapM (errorsAt setup.settings.leastTests world.files) with
  | error failure =>
    refine .inr ⟨fun tabled => ?_, _, rfl⟩
    obtain ⟨errors, given⟩ := exists_mapM_iff.mpr fun report member =>
      (exists_errorsAt_iff setup.settings.leastTests).mpr (tabled.readable report member)
    rw [told] at given
    cases given
  | ok errors =>
    rw [tabled_iff told]
    have printed := print_checkMessage isDocumented (setup.storeRoot root?) reports errors
    cases written : writeShown (screen.table (reportTable (setup.storeRoot root?) reports errors))
      with
    | error crash =>
      rw [written] at printed
      refine .inr ⟨?_, crash, printed⟩
      rintro ⟨_, given⟩
      cases given
    | ok table =>
      rw [written] at printed
      have total := countP_add_countP_passesAt setup.settings.leastTests world.files reports
      have passed := Nat.eq_sub_of_add_eq total
      refine .inl ⟨⟨table, rfl⟩, ?_⟩
      rw [passed, ← countP_errors told]
      exact printed

/-- What each report comes to is told by what is stored of it alone, and the counts are printed
exactly if every report can be read and their table can be shown and written. Otherwise a single
report keeps back all, and nothing is printed. This is said of every screen that keeps to its manual
and of all files without links. -/
theorem run_check_isTally_iff (isDocumented : screen.IsDocumented) (workers : Int)
    (listed : Store.reports world.files (setup.storeRoot root?) = .ok reports)
    (notEmpty : reports ≠ []) :
    ∃ passed failed,
      passed + failed = reports.length ∧
        passed = reports.countP (passesAt setup.settings.leastTests world.files) ∧
        (IsTally passed failed ((Command.check root? workers).run setup screen world).1 ↔
          Tabled screen setup.settings.leastTests world.files (setup.storeRoot root?) reports) ∧
        (¬ Tabled screen setup.settings.leastTests world.files (setup.storeRoot root?) reports →
          ∃ crash : Crash,
            ((Command.check root? workers).run setup screen world).1 = crash.outcome) ∧
        ((Command.check root? workers).run setup screen world).2 = world ∧
        ∀ report other, AgreeOn report world.files other →
          passesAt setup.settings.leastTests other report =
            passesAt setup.settings.leastTests world.files report := by
  have keeps : ((Command.check root? workers).run setup screen world).2 = world := by
    rw [run_check workers listed notEmpty]
    cases reports.mapM (errorsAt setup.settings.leastTests world.files) <;> rfl
  refine ⟨_, _, countP_add_countP_passesAt setup.settings.leastTests world.files reports, rfl, ?_⟩
  refine and_assoc.mp ⟨?_, keeps, fun report other agree => agree.passesAt_eq _⟩
  obtain ⟨tabled, isTally⟩ | ⟨untabled, crash, crashed⟩ :=
    run_check_cases isDocumented workers listed notEmpty
  · exact ⟨⟨fun _ => tabled, fun _ => isTally⟩, fun missing => absurd tabled missing⟩
  · refine ⟨⟨fun isTally => ?_, fun tabled => absurd tabled untabled⟩, fun _ => ⟨crash, crashed⟩⟩
    rw [crashed] at isTally
    exact absurd isTally (not_isTally_outcome _ _ crash)

end Check

/-! ### A store with a report that is no text -/

/-- A store with two reports. -/
def twoReports (first second : Content) : FileSystem where
  here := []
  entries :=
    [(["results"], .folder), (["results", "m"], .folder),
      (["results", "m", "a.txt"], .file first), (["results", "m", "b.txt"], .file second)]

/-- The path of the first of two reports. -/
def firstReport : Path :=
  ⟨[], ["results", "m", "a.txt"]⟩

/-- The path of the second of two reports. -/
def secondReport : Path :=
  ⟨[], ["results", "m", "b.txt"]⟩

theorem reports_twoReports (first second : Content) :
    Store.reports (twoReports first second) (Path.ofText "results") =
      .ok [firstReport, secondReport] := by
  have ordered : List.Pairwise (fun place other => placeNotAfter place other = true)
      [(["m", "a.txt"] : Place), ["m", "b.txt"]] := by decide
  show Except.ok (List.map _ (List.mergeSort [(["m", "a.txt"] : Place), ["m", "b.txt"]] _)) = _
  rw [List.mergeSort_of_pairwise ordered]
  rfl

/-- The report of the sample passes, whatever the other one is. -/
theorem errorsAt_accepted (leastTests : Int) (second : Content) :
    errorsAt leastTests (twoReports (.text Report.sampleReport.text) second) firstReport =
      .ok [] := by
  have same : Text.withPlainNewlines Report.sampleReport.text = Report.sampleReport.text := by
    decide +kernel
  have stored : storedAt (twoReports (.text Report.sampleReport.text) second) firstReport =
      .ok { report := Text.withPlainNewlines Report.sampleReport.text, java? := none } := rfl
  rw [errorsAt, stored, same]
  show Except.ok (List.map _ (Report.checkReport Report.sampleReport.text).errors ++ []) = _
  rw [Report.checkReport_text Report.wellFormed_sampleReport]
  rfl

theorem errorsAt_refused (leastTests : Int) (first : Content) :
    errorsAt leastTests (twoReports first (.text "x")) secondReport =
      .ok ["Missing required sections: (A) and/or (B)."] :=
  rfl

/-- A plain screen that knows no pictures. -/
def plainScreen : Screen :=
  Markup.screen fun _ => none

/-- A report that is accepted and one that is not. -/
theorem run_check_acceptedAndRefused :
    let files := twoReports (.text Report.sampleReport.text) (.text "x")
    Store.reports files (Path.ofText "results") = .ok [firstReport, secondReport] ∧
      IsTally 1 1 ((Command.check none 4).run { clock := [] } plainScreen { files }).1 := by
  intro files
  have listed := reports_twoReports (.text Report.sampleReport.text) (.text "x")
  have accepted := errorsAt_accepted 3 (.text "x")
  have refused := errorsAt_refused 3 (.text Report.sampleReport.text)
  refine ⟨listed, ?_⟩
  obtain ⟨passed, failed, total, isPassed, told, _⟩ :=
    @run_check_isTally_iff { clock := [] } plainScreen none { files } _
      (Markup.isDocumented_screen _) 4 listed (List.cons_ne_nil _ _)
  have passes := (isEmpty_of_errorsAt accepted).symm
  have fails := Bool.eq_false_iff.mp (isEmpty_of_errorsAt refused).symm
  have one : passed = 1 := by
    rw [isPassed, List.countP_cons_of_pos passes, List.countP_cons_of_neg fails]
    rfl
  obtain rfl : failed = 1 := by
    rw [one] at total
    exact Nat.add_left_cancel total
  rw [one] at told
  refine told.mpr ⟨fun report member => ?_, fun errors given => ?_⟩
  · obtain rfl | rfl := List.mem_pair.mp member
    · exact (exists_errorsAt_iff 3).mp ⟨_, accepted⟩
    · exact (exists_errorsAt_iff 3).mp ⟨_, refused⟩
  · have verdicts : [firstReport, secondReport].mapM (errorsAt 3 files) =
        .ok [[], ["Missing required sections: (A) and/or (B)."]] :=
      mapM_eq_ok_iff.mpr (.cons accepted (.cons refused .nil))
    obtain rfl := Except.ok.inj (verdicts.symm.trans given)
    have shown : plainScreen.table (reportTable (Path.ofText "results")
        [firstReport, secondReport] [[], ["Missing required sections: (A) and/or (B)."]]) =
        .ok ("File\nm/a.txt\nm/b.txt\nResult\nPASS\nFAIL\nErrors\n\n" ++
          "Missing required sections: (A) and/or (B).\n") := by decide +kernel
    exact ⟨_, writeShown_of_holdsNoHalf shown (Text.holdsNoHalf_of_ascii (by decide +kernel))⟩

/-- A report that is no text, beside one that is accepted: neither is counted. -/
theorem run_check_of_spoiled :
    let files := twoReports (.text Report.sampleReport.text) (.ofBytes [0xff])
    let outcome := ((Command.check none 4).run { clock := [] } plainScreen { files }).1
    Store.reports files (Path.ofText "results") = .ok [firstReport, secondReport] ∧
      passesAt 3 files firstReport = true ∧
      outcome.code = 1 ∧ outcome.output = [] ∧
      ∀ passed failed, ¬ IsTally passed failed outcome := by
  intro files outcome
  have listed := reports_twoReports (.text Report.sampleReport.text) (.ofBytes [0xff])
  have accepted := errorsAt_accepted 3 (.ofBytes [0xff])
  have spoiled : errorsAt 3 files secondReport =
      .error (.encoding ⟨0, 0xff, 1, .invalidStart⟩) := rfl
  have ends : outcome = Crash.outcome (.failure (.encoding ⟨0, 0xff, 1, .invalidStart⟩)) := by
    have told : [firstReport, secondReport].mapM (errorsAt 3 files) =
        .error (.encoding ⟨0, 0xff, 1, .invalidStart⟩) := by
      rw [List.mapM_cons, accepted, List.mapM_cons, spoiled]
      rfl
    have ran := @run_check { clock := [] } plainScreen none { files } _ 4 listed
      (List.cons_ne_nil _ _)
    dsimp only at ran
    rw [told] at ran
    exact congrArg Prod.fst ran
  refine ⟨listed, (isEmpty_of_errorsAt accepted).symm, ?_, ?_, fun passed failed => ?_⟩
  · rw [ends]
    rfl
  · rw [ends]
    rfl
  · rw [ends]
    exact not_isTally_outcome passed failed _

end BrowserPlan
