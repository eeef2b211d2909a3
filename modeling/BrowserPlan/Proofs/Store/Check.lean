/-
This file proves what the check of one stored report looks at: the report, the Java text beside it,
and nothing else.

The check has errors to tell only if both can be read. A file that holds no text, or a name beside
the report that is too long for a file, leaves the check without a verdict.
-/

import BrowserPlan.Proofs.Work
import BrowserPlan.Store.Check

namespace BrowserPlan.Store

open Work

/-! ### What is stored of a report -/

/-- A report and the Java text beside it, if there is any. -/
structure Stored where
  report : Text
  java? : Option Text

/-- The Java text at a path, if there is a file. -/
def javaAt? (files : FileSystem) (java : Path) : Except Failure (Option Text) :=
  match files.isFile java with
  | .error fault => .error (.file fault)
  | .ok false => .ok none
  | .ok true => (textAt files java).map some

/-- What the files hold of the report at a path. -/
def storedAt (files : FileSystem) (path : Path) : Except Failure Stored :=
  match textAt files path, path.withSuffix ".java" with
  | .ok report, .ok java => (javaAt? files java).map fun java? => { report, java? }
  | .ok _, .error fault => .error (.path fault)
  | .error failure, _ => .error failure

/-- A report passes if it is valid and so is the Java text beside it. -/
def Stored.passes (leastTests : Int) (stored : Stored) : Bool :=
  (Report.checkReport stored.report).valid &&
    stored.java?.all fun java => (Java.checkSyntax java leastTests).valid

/-- What is wrong with what is stored, where the Java text has the given name. -/
def Stored.errors (leastTests : Int) (javaName : Text) (stored : Stored) : List Text :=
  (Report.checkReport stored.report).errors.map Report.ReportError.message ++
    stored.java?.toList.flatMap fun java =>
      (Java.checkSyntax java leastTests).errors.map fun error =>
        javaName ++ (": " : Text) ++ error.message

/-- What is stored passes just if there are no errors. -/
theorem Stored.isEmpty_errors (leastTests : Int) (javaName : Text) (stored : Stored) :
    (stored.errors leastTests javaName).isEmpty = stored.passes leastTests := by
  rw [errors, passes, Report.ReportCheck.valid, Bool.eq_iff_iff, List.isEmpty_iff,
    List.append_eq_nil_iff, List.map_eq_nil_iff, Bool.and_eq_true, List.isEmpty_iff]
  cases stored.java? <;> simp [Java.SyntaxReport.valid]

theorem name_withSuffix {path java : Path} {suffix : Text}
    (named : path.withSuffix suffix = .ok java) : java.name = path.stem ++ suffix := by
  rw [Path.withSuffix, Path.withName] at named
  split at named
  · cases named
  · cases named
    rw [Path.name, List.getLast?_concat]
    rfl

/-- What is wrong with the report at a path. -/
def errorsAt (leastTests : Int) (files : FileSystem) (path : Path) : Except Failure (List Text) :=
  (storedAt files path).map (Stored.errors leastTests (path.stem ++ (".java" : Text)))

/-- The check of a report asks what is stored of it. -/
theorem perform_checkStored (leastTests : Int) (path : Path) (world : World) :
    (checkStored leastTests path).perform world =
      (errorsAt leastTests world.files path, world) := by
  rw [checkStored, errorsAt, storedAt, perform_bind, perform_readText]
  rcases textAt world.files path with failure | report
  · rfl
  · dsimp only
    rw [perform_bind, perform_ofExcept]
    cases named : path.withSuffix ".java" with
    | error fault => rfl
    | ok java =>
      dsimp only [Except.mapError]
      rw [perform_bind, perform_ask, javaAt?]
      rcases world.files.isFile java with fault | _ | _
      · rfl
      · show (Except.ok (_ : List Text), world) = (Except.ok (_ ++ []), world)
        rw [List.append_nil]
      · dsimp only [Except.mapError]
        rw [if_pos rfl, perform_bind, perform_readText]
        rcases textAt world.files java with failure | code
        · rfl
        · show (Except.ok (_ : List Text), world) = (Except.ok (_ ++ (_ ++ [])), world)
          rw [List.append_nil, name_withSuffix named]

/-! ### Reports without a verdict -/

/-- The report and the Java text beside it hold text, and there can be a file beside the report. -/
structure Readable (files : FileSystem) (path : Path) : Prop where
  report : ∃ chars, files.read path = .ok (.text chars)
  java : ∃ java, path.withSuffix ".java" = .ok java ∧
    (files.isFile java = .ok false ∨ ∃ chars, files.read java = .ok (.text chars))

/-- Whether there is a file is told by what reading it comes to. -/
theorem isFile_eq (files : FileSystem) (path : Path) :
    files.isFile path =
      match files.read path with
      | .ok _ => .ok true
      | .error fault =>
          if fault.problem = .longName then .error ⟨.longName, path⟩ else .ok false := by
  rw [FileSystem.isFile, FileSystem.answer, FileSystem.read]
  rcases files.look path with place | ⟨place, content⟩ | place | problem
  · rfl
  · rfl
  · rfl
  · cases problem <;> rfl

theorem exists_javaAt?_iff {files : FileSystem} {java : Path} :
    (∃ java?, javaAt? files java = .ok java?) ↔
      files.isFile java = .ok false ∨ ∃ chars, files.read java = .ok (.text chars) := by
  rw [← exists_textAt_iff]
  constructor
  · rintro ⟨java?, found⟩
    rw [javaAt?] at found
    rcases isThere : files.isFile java with fault | _ | _
    · rw [isThere] at found
      cases found
    · exact .inl rfl
    · rw [isThere] at found
      cases text : textAt files java with
      | error failure =>
        rw [text] at found
        cases found
      | ok chars => exact .inr ⟨chars, rfl⟩
  · rintro (absent | ⟨text, found⟩)
    · exact ⟨none, by rw [javaAt?, absent]⟩
    · obtain ⟨chars, read⟩ := exists_textAt_iff.mp ⟨text, found⟩
      exact ⟨some text, by rw [javaAt?, isFile_eq, read, found]; rfl⟩

/-- What is stored of a report can be told just if all of it can be read. -/
theorem exists_storedAt_iff {files : FileSystem} {path : Path} :
    (∃ stored, storedAt files path = .ok stored) ↔ Readable files path := by
  constructor
  · rintro ⟨stored, found⟩
    rw [storedAt] at found
    split at found
    · rename_i report java text named
      cases beside : javaAt? files java with
      | error failure =>
        rw [beside] at found
        cases found
      | ok java? =>
        exact ⟨exists_textAt_iff.mp ⟨report, text⟩, java, named,
          exists_javaAt?_iff.mp ⟨java?, beside⟩⟩
    · cases found
    · cases found
  · rintro ⟨isText, java, named, beside⟩
    obtain ⟨report, text⟩ := exists_textAt_iff.mpr isText
    obtain ⟨java?, found⟩ := exists_javaAt?_iff.mpr beside
    refine ⟨{ report, java? }, ?_⟩
    rw [storedAt, text, named]
    show (javaAt? files java).map _ = _
    rw [found]
    rfl

/-- A report has a verdict just if all that is stored of it can be read. -/
theorem exists_errorsAt_iff (leastTests : Int) {files : FileSystem} {path : Path} :
    (∃ errors, errorsAt leastTests files path = .ok errors) ↔ Readable files path := by
  rw [← exists_storedAt_iff, errorsAt]
  cases storedAt files path <;> simp [Except.map]

/-! ### What a verdict depends on -/

/-- Whether the report at a path passes; one without a verdict does not. -/
def passesAt (leastTests : Int) (files : FileSystem) (path : Path) : Bool :=
  match storedAt files path with
  | .ok stored => stored.passes leastTests
  | .error _ => false

/-- A report passes just if it has no errors. -/
theorem isEmpty_of_errorsAt {leastTests : Int} {files : FileSystem} {path : Path}
    {errors : List Text} (told : errorsAt leastTests files path = .ok errors) :
    errors.isEmpty = passesAt leastTests files path := by
  rw [errorsAt] at told
  rw [passesAt]
  cases found : storedAt files path with
  | error failure =>
    rw [found] at told
    cases told
  | ok stored =>
    rw [found] at told
    cases told
    exact stored.isEmpty_errors leastTests _

theorem textAt_congr {files other : FileSystem} {path : Path}
    (same : other.read path = files.read path) : textAt other path = textAt files path := by
  rw [textAt_eq, textAt_eq, same]

theorem javaAt?_congr {files other : FileSystem} {java : Path}
    (same : other.read java = files.read java) : javaAt? other java = javaAt? files java := by
  rw [javaAt?, javaAt?, isFile_eq, isFile_eq, textAt_congr same, same]

/-- The files tell the same of a report and of the Java text beside it. -/
structure AgreeOn (path : Path) (files other : FileSystem) : Prop where
  report : other.read path = files.read path
  java (java : Path) (named : path.withSuffix ".java" = .ok java) :
    other.read java = files.read java

theorem AgreeOn.storedAt_eq {files other : FileSystem} {path : Path}
    (agree : AgreeOn path files other) : storedAt other path = storedAt files path := by
  rw [storedAt, storedAt, textAt_congr agree.report]
  cases named : path.withSuffix ".java" with
  | error fault => cases textAt files path <;> rfl
  | ok java =>
    have beside := javaAt?_congr (agree.java java named)
    cases textAt files path with
    | error failure => rfl
    | ok report =>
      show (javaAt? other java).map _ = (javaAt? files java).map _
      rw [beside]

/-- The verdict of a report depends on its own files alone. -/
theorem AgreeOn.passesAt_eq {files other : FileSystem} {path : Path}
    (agree : AgreeOn path files other) (leastTests : Int) :
    passesAt leastTests other path = passesAt leastTests files path := by
  rw [passesAt, passesAt, agree.storedAt_eq]

end BrowserPlan.Store
