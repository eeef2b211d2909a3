/-
This file proves what each way of building work does when it is done.

Work is a function of the world that it is done on, so what comes of work that consists of parts is
read off the parts one after the other. Asking leaves the world as it is, and a change that fails
does so too. Work that only asks is a question itself, and so is a list of such work.
-/

import BrowserPlan.Work

namespace BrowserPlan.Work

variable {Files First Value : Type}

/-! ### Work done part by part -/

/-- What is done next starts from what the first part comes to, unless that fails. -/
theorem perform_bind (work : Work Files First) (next : First → Work Files Value)
    (world : World Files) :
    (work >>= next).perform world =
      match work.perform world with
      | (.ok first, between) => (next first).perform between
      | (.error failure, between) => (.error failure, between) := by
  rw [perform, ExceptT.run_bind]
  simp only [bind, StateT.bind]
  cases outcome : work.perform world with
  | mk result between =>
    rw [perform] at outcome
    rw [outcome]
    cases result <;> rfl

theorem perform_ofExcept {Fault : Type} (failure : Fault → Failure) (result : Except Fault Value)
    (world : World Files) :
    (ofExcept failure result).perform world = (result.mapError failure, world) := by
  cases result <;> rfl

theorem perform_ask (question : Files → Except FileFault Value) (world : World Files) :
    (ask question).perform world = ((question world.files).mapError .file, world) :=
  perform_ofExcept .file (question world.files) world

theorem perform_change (operation : Files → Except FileFault Files) (world : World Files) :
    (Work.change operation).perform world =
      match operation world.files with
      | .ok files => (.ok (), { world with files })
      | .error fault => (.error (.file fault), world) := by
  show (ofExcept .file (operation world.files) >>= fun files =>
    modify fun world => { world with files }).perform world = _
  cases operation world.files <;> rfl

/-! ### Reading and writing -/

section Disk

variable [Disk Files]

/-- What is read from a text file. -/
def textAt (files : Files) (path : Path) : Except Failure Text :=
  match Disk.read files path with
  | .ok (.text chars) => .ok (Text.withPlainNewlines chars)
  | .ok (.bytes _ fault) => .error (.encoding fault)
  | .error fault => .error (.file fault)

/-- Reading a text changes nothing. -/
theorem perform_readText (path : Path) (world : World Files) :
    (Work.readText path).perform world = (textAt world.files path, world) := by
  rw [Work.readText, perform_bind, perform_ask, textAt]
  rcases Disk.read world.files path with fault | content
  · rfl
  · cases content <;> rfl

/-- Writing changes the files whether it fails or not. -/
theorem perform_write (path : Path) (text : Text) (world : World Files) :
    (Work.write path text).perform world =
      ((Disk.write world.files path text).1.mapError .file,
        { world with files := (Disk.write world.files path text).2 }) :=
  perform_ofExcept .file _ _

/-- A text without bytes fails, whether or not its file could be emptied. -/
theorem perform_writeText (path : Path) (text : Text) (world : World Files) :
    (writeText path text).perform world =
      match Utf8.halfFault? text with
      | none =>
          ((Disk.write world.files path text).1.mapError .file,
            { world with files := (Disk.write world.files path text).2 })
      | some fault =>
          ((Disk.write world.files path []).1.mapError .file >>= fun _ =>
              .error (.unencodable fault),
            { world with files := (Disk.write world.files path []).2 }) := by
  rw [writeText]
  cases Utf8.halfFault? text with
  | none => exact perform_write path text world
  | some fault =>
    simp only [perform_bind, perform_write]
    cases (Disk.write world.files path []).1 <;> rfl

end Disk

/-- The text of a file, with plain newlines, or why there is none. -/
theorem textAt_eq (files : FileSystem) (path : Path) :
    textAt files path =
      match files.read path with
      | .ok (.text chars) => .ok (Text.withPlainNewlines chars)
      | .ok (.bytes _ fault) => .error (.encoding fault)
      | .error fault => .error (.file fault) :=
  rfl

theorem exists_textAt_iff {files : FileSystem} {path : Path} :
    (∃ text, textAt files path = .ok text) ↔ ∃ chars, files.read path = .ok (.text chars) := by
  rw [textAt_eq]
  rcases files.read path with fault | chars | ⟨bytes, fault⟩ <;> simp

/-! ### The same work on each item of a list -/

/-- As long as no item changes the world, each is asked about the world as it was. -/
theorem perform_mapM {Item : Type} {work : Item → Work Files Value}
    {answer : Item → Except Failure Value} {world : World Files}
    (asks : ∀ item, (work item).perform world = (answer item, world))
    (items : List Item) : (items.mapM work).perform world = (items.mapM answer, world) := by
  induction items with
  | nil => rfl
  | cons item items inductionHypothesis =>
    rw [List.mapM_cons, List.mapM_cons, perform_bind, asks]
    cases answer item with
    | error failure => rfl
    | ok value =>
      dsimp only
      rw [perform_bind, inductionHypothesis]
      cases items.mapM answer <;> rfl

/-! ### Work that succeeds -/

/-- Work that gets to its end has got to the end of its first part. -/
theorem ok_of_perform_bind {work : Work Files First} {next : First → Work Files Value}
    {world after : World Files} {value : Value}
    (done : (work >>= next).perform world = (.ok value, after)) :
    ∃ first between, work.perform world = (.ok first, between) ∧
      (next first).perform between = (.ok value, after) := by
  rw [perform_bind] at done
  cases outcome : work.perform world with
  | mk result between =>
    rw [outcome] at done
    cases result with
    | ok first => exact ⟨first, between, rfl, done⟩
    | error failure => cases done

/-- Work that only gives a value leaves the world as it was. -/
theorem world_of_pure {given value : Value} {world after : World Files}
    (done : (pure given : Work Files Value).perform world = (.ok value, after)) : after = world :=
  (congrArg Prod.snd done).symm

theorem value_of_pure {given value : Value} {world after : World Files}
    (done : (pure given : Work Files Value).perform world = (.ok value, after)) : value = given :=
  (Except.ok.inj (congrArg Prod.fst done)).symm

theorem ok_of_perform_ofExcept {Fault : Type} {failure : Fault → Failure}
    {result : Except Fault Value} {value : Value} {world after : World Files}
    (done : (ofExcept failure result).perform world = (.ok value, after)) :
    result = .ok value ∧ after = world := by
  rw [perform_ofExcept] at done
  cases result with
  | error fault => cases done
  | ok given =>
    cases done
    exact ⟨rfl, rfl⟩

theorem files_of_change {operation : Files → Except FileFault Files}
    {world after : World Files} (done : (Work.change operation).perform world = (.ok (), after)) :
    operation world.files = .ok after.files := by
  rw [perform_change] at done
  cases outcome : operation world.files with
  | ok files =>
    rw [outcome] at done
    cases done
    rfl
  | error fault =>
    rw [outcome] at done
    cases done

/-- Only a text that has bytes is written. -/
theorem disk_write_of_writeText [Disk Files] {path : Path} {text : Text} {world after : World Files}
    (done : (writeText path text).perform world = (.ok (), after)) :
    Disk.write world.files path text = (.ok (), after.files) := by
  rw [writeText] at done
  split at done
  · rw [perform_write] at done
    rcases outcome : Disk.write world.files path text with ⟨fault | wrote, files⟩
    · rw [outcome] at done
      cases done
    · rw [outcome] at done
      cases done
      rfl
  · obtain ⟨_, _, _, failed⟩ := ok_of_perform_bind done
    cases failed

theorem files_of_writeText {path : Path} {text : Text} {world after : World}
    (done : (writeText path text).perform world = (.ok (), after)) :
    world.files.write path text = .ok after.files := by
  have written := disk_write_of_writeText done
  rw [Disk.write, instDiskFileSystem] at written
  dsimp only at written
  split at written
  · rename_i outcome
    cases written
    exact outcome
  · cases written

end BrowserPlan.Work
