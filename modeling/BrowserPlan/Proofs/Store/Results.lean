/-
This file proves what a store holds after a run in which outputs are saved one after the other.

Outputs meet if they go to one folder under one stem. Of those that meet, the last one is the report
that is kept, and the Java text beside it is that of the last one that had any. So the two belong
together unless an output without Java text was saved over one with it: then the report is the new
one, and the Java text beside it is still the old one.
-/

import BrowserPlan.Proofs.Store.Place
import BrowserPlan.Proofs.Work
import BrowserPlan.Store.Results

namespace BrowserPlan

namespace Store

/-! ### Saving one output -/

/-- An output with what it is saved under. -/
structure Output where
  provider : Text
  description : Text
  text : Text
  deriving DecidableEq, Repr

/-- The Java text that is kept of an output: that of its blocks, unless it is empty. -/
def codeOf? (text : Text) : Option Text :=
  (Report.joinedBlocks? text).filter (· ≠ [])

/-- The folder of a model in a store. -/
def folderOf (files : FileSystem) (root : Path) (model : Text) : Place :=
  files.placeOf (root.child model)

/-- The place of a file in a folder. -/
def placeIn (folder : Place) (stem suffix : Text) : Place :=
  folder ++ [stem ++ suffix]

/-- Two outputs go to one place just if folder and stem are the same. -/
theorem placeIn_inj {folder other : Place} {stem otherStem suffix : Text} :
    placeIn folder stem suffix = placeIn other otherStem suffix ↔
      folder = other ∧ stem = otherStem := by
  rw [placeIn, placeIn, List.append_singleton_inj, List.append_cancel_right_eq]

theorem placeIn_ne {folder other : Place} {stem otherStem : Text} :
    placeIn folder stem ".txt" ≠ placeIn other otherStem ".java" := by
  intro same
  have names := (List.append_singleton_inj.mp same).2
  have last := congrArg List.getLast? names
  rw [List.getLast?_append, List.getLast?_append] at last
  exact absurd (Option.some.inj last) (by decide)

theorem filePath_eq (root : Path) (model stem : Text) {suffix : Text} (long : 2 < suffix.length) :
    filePath root model stem suffix =
      ⟨root.root, (root.parts ++ [model].filter Path.isPart) ++ [stem ++ suffix]⟩ := by
  have isPart : Path.isPart (stem ++ suffix) = true := by
    rw [Path.isPart, Bool.and_eq_true, decide_eq_true_eq, decide_eq_true_eq]
    exact ⟨Text.append_ne_of_length_le long (by decide),
      Text.append_ne_of_length_le long (by decide)⟩
  have named : [stem ++ suffix].filter Path.isPart = [stem ++ suffix] :=
    List.filter_cons_of_pos isPart
  show Path.mk root.root
    ((root.parts ++ [model].filter Path.isPart) ++ [stem ++ suffix].filter Path.isPart) = _
  rw [named]

/-- The file of an output lies in the folder of its model. -/
theorem placeOf_filePath (files : FileSystem) (root : Path) (model stem : Text) {suffix : Text}
    (long : 2 < suffix.length) :
    files.placeOf (filePath root model stem suffix) =
      placeIn (folderOf files root model) stem suffix := by
  rw [filePath_eq root model stem long, FileSystem.placeOf, FileSystem.along_append,
    FileSystem.along, if_neg (Text.append_ne_of_length_le long (by decide))]
  rfl

/-- What is written under the name of a result is put into the folder of its model, if the run still
stands where it started. -/
theorem puts_of_write_filePath {files before after : FileSystem} {root : Path}
    {model stem suffix text : Text} (long : 2 < suffix.length) (here : before.here = files.here)
    (written : before.write (filePath root model stem suffix) text = .ok after) :
    before.Puts after (placeIn (folderOf files root model) stem suffix) (.text text) := by
  have puts := FileSystem.puts_of_write written
  rwa [placeOf_filePath _ _ _ _ long, folderOf, FileSystem.placeOf_eq here, ← folderOf] at puts

/-- Saving an output makes its folder and writes the report, and the Java text beside it if there
is any. -/
theorem steps_of_save {root : Path} {provider description text : Text} {saved : Saved}
    {world after : World}
    (done : (save root provider description text).perform world = (.ok saved, after)) :
    saved =
        { model := modelName provider
          text := filePath root (modelName provider) (stemName description) ".txt"
          java? := (codeOf? text).map fun _ =>
            filePath root (modelName provider) (stemName description) ".java" } ∧
    ∃ made written,
      world.files.makeFolders (root.child (modelName provider)) = .ok made ∧
      made.write (filePath root (modelName provider) (stemName description) ".txt") text =
        .ok written ∧
      match codeOf? text with
      | none => after.files = written
      | some code =>
          written.write (filePath root (modelName provider) (stemName description) ".java") code =
            .ok after.files := by
  unfold save at done
  obtain ⟨_, first, made, done⟩ := Work.ok_of_perform_bind done
  obtain ⟨_, second, written, done⟩ := Work.ok_of_perform_bind done
  have folders := Work.files_of_change made
  have report := Work.files_of_writeText written
  match found : Report.joinedBlocks? text with
  | none =>
    rw [codeOf?, found]
    rw [found] at done
    exact ⟨Work.value_of_pure done, first.files, second.files, folders, report,
      congrArg World.files (Work.world_of_pure done)⟩
  | some [] =>
    rw [codeOf?, found]
    rw [found] at done
    exact ⟨Work.value_of_pure done, first.files, second.files, folders, report,
      congrArg World.files (Work.world_of_pure done)⟩
  | some (char :: code) =>
    rw [codeOf?, found]
    rw [found] at done
    obtain ⟨_, third, writtenCode, done⟩ := Work.ok_of_perform_bind done
    refine ⟨Work.value_of_pure done, first.files, second.files, folders, report, ?_⟩
    rw [Work.world_of_pure done]
    exact Work.files_of_writeText writtenCode

namespace Output

/-- The Java text of an output, if it has some. -/
def code? (output : Output) : Option Text :=
  codeOf? output.text

/-- The output is saved to a folder under a stem. -/
def GoesTo (files : FileSystem) (root : Path) (folder : Place) (stem : Text) (output : Output) :
    Prop :=
  folder = folderOf files root (modelName output.provider) ∧ stem = stemName output.description

instance (files : FileSystem) (root : Path) (folder : Place) (stem : Text) :
    DecidablePred (GoesTo files root folder stem) :=
  fun _ => inferInstanceAs (Decidable (_ ∧ _))

/-- Where an output goes depends on the current folder alone. -/
theorem goesTo_iff_of_here {files other : FileSystem} (here : files.here = other.here)
    {root : Path} {folder : Place} {stem : Text} {output : Output} :
    output.GoesTo files root folder stem ↔ output.GoesTo other root folder stem := by
  rw [GoesTo, GoesTo, folderOf, folderOf, FileSystem.placeOf_eq here]

end Output

/-- What is known of the files after an output was saved: the report is that of the output, if it
goes there, and so is the Java text if it has any; everything else is as before. -/
theorem contentAt_save {root : Path} {output : Output} {saved : Saved} {world after : World}
    (done : (save root output.provider output.description output.text).perform world =
      (.ok saved, after)) :
    after.files.here = world.files.here ∧ ∀ folder stem,
      after.files.contentAt (placeIn folder stem ".txt") =
        (if output.GoesTo world.files root folder stem then some (.text output.text)
          else world.files.contentAt (placeIn folder stem ".txt")) ∧
      after.files.contentAt (placeIn folder stem ".java") =
        (if output.GoesTo world.files root folder stem then (output.code?).map .text
          else none).or (world.files.contentAt (placeIn folder stem ".java")) := by
  obtain ⟨_, made, written, folders, report, rest⟩ := steps_of_save done
  have same := FileSystem.sameFiles_of_makeFolders folders
  have puts := puts_of_write_filePath (by decide) same.here report
  have reports (folder : Place) (stem : Text) :
      written.contentAt (placeIn folder stem ".txt") =
        if output.GoesTo world.files root folder stem then some (.text output.text)
        else world.files.contentAt (placeIn folder stem ".txt") := by
    rw [puts.contentAt, same.contentAt]
    exact ite_congr (propext placeIn_inj) (fun _ => rfl) fun _ => rfl
  have others (folder : Place) (stem : Text) :
      written.contentAt (placeIn folder stem ".java") =
        world.files.contentAt (placeIn folder stem ".java") := by
    rw [puts.contentAt, if_neg placeIn_ne.symm, same.contentAt]
  cases found : output.code? with
  | none =>
    rw [← Output.code?, found] at rest
    rw [rest]
    refine ⟨puts.here.trans same.here, fun folder stem => ⟨reports folder stem, ?_⟩⟩
    rw [others, Option.map_none, ite_self, Option.none_or]
  | some code =>
    rw [← Output.code?, found] at rest
    have puts' := puts_of_write_filePath (by decide) (puts.here.trans same.here) rest
    refine ⟨puts'.here.trans (puts.here.trans same.here), fun folder stem => ⟨?_, ?_⟩⟩
    · rw [puts'.contentAt, if_neg placeIn_ne, reports]
    · rw [puts'.contentAt, others]
      by_cases goes : output.GoesTo world.files root folder stem
      · rw [if_pos (placeIn_inj.mpr goes), if_pos goes]
        rfl
      · rw [if_neg (mt placeIn_inj.mp goes), if_neg goes, Option.none_or]

/-! ### Saving outputs one after the other -/

/-- Saves outputs in order. -/
def saveAll (root : Path) : List Output → Work FileSystem (List Saved)
  | [] => return []
  | output :: outputs => do
      let saved ← save root output.provider output.description output.text
      let rest ← saveAll root outputs
      return saved :: rest

/-- A run that succeeds has saved its first output and gone on with the others. -/
theorem steps_of_saveAll_cons {root : Path} {output : Output} {outputs : List Output}
    {saved : List Saved} {world after : World}
    (done : (saveAll root (output :: outputs)).perform world = (.ok saved, after)) :
    ∃ here between others,
      (save root output.provider output.description output.text).perform world =
        (.ok here, between) ∧
      (saveAll root outputs).perform between = (.ok others, after) ∧ saved = here :: others := by
  rw [saveAll] at done
  obtain ⟨here, between, first, done⟩ := Work.ok_of_perform_bind done
  obtain ⟨others, last, rest, done⟩ := Work.ok_of_perform_bind done
  obtain rfl := Work.world_of_pure done
  exact ⟨here, between, others, first, rest, Work.value_of_pure done⟩

/-- The outputs that go to a folder under a stem. -/
def meeting (files : FileSystem) (root : Path) (folder : Place) (stem : Text)
    (outputs : List Output) : List Output :=
  outputs.filter (·.GoesTo files root folder stem)

/-- The Java texts of outputs that have any. -/
def codesOf (outputs : List Output) : List Text :=
  outputs.filterMap Output.code?

theorem meeting_eq_of_here {files other : FileSystem} (here : files.here = other.here)
    (root : Path) (folder : Place) (stem : Text) (outputs : List Output) :
    meeting files root folder stem outputs = meeting other root folder stem outputs :=
  List.filter_congr fun _ _ => decide_eq_decide.mpr (Output.goesTo_iff_of_here here)

theorem map_getLast?_cons_or {Item Value : Type} (value : Item → Value) (first : Item)
    (items : List Item) (other : Option Value) :
    ((first :: items).getLast?.map value).or other =
      (items.getLast?.map value).or (some (value first)) := by
  rw [List.getLast?_cons]
  cases items.getLast? <;> rfl

/-- The last of the outputs that meet is the report, and the last Java text of any of them is
beside it. -/
theorem contentAt_saveAll {root : Path} {outputs : List Output} {saved : List Saved}
    {world after : World} (done : (saveAll root outputs).perform world = (.ok saved, after))
    (folder : Place) (stem : Text) :
    after.files.contentAt (placeIn folder stem ".txt") =
      ((meeting world.files root folder stem outputs).getLast?.map (.text ·.text)).or
        (world.files.contentAt (placeIn folder stem ".txt")) ∧
    after.files.contentAt (placeIn folder stem ".java") =
      ((codesOf (meeting world.files root folder stem outputs)).getLast?.map .text).or
        (world.files.contentAt (placeIn folder stem ".java")) := by
  induction outputs generalizing world saved with
  | nil =>
    rw [Work.world_of_pure done]
    exact ⟨rfl, rfl⟩
  | cons output outputs inductionHypothesis =>
    obtain ⟨_, _, _, first, rest, _⟩ := steps_of_saveAll_cons done
    obtain ⟨here, contents⟩ := contentAt_save first
    obtain ⟨report, java⟩ := inductionHypothesis rest
    rw [(contents folder stem).1, meeting_eq_of_here here] at report
    rw [(contents folder stem).2, meeting_eq_of_here here] at java
    -- What the first output leaves stays, unless one of the others goes to the same place.
    rw [report, java]
    by_cases goes : output.GoesTo world.files root folder stem
    · have meets : meeting world.files root folder stem (output :: outputs) =
          output :: meeting world.files root folder stem outputs :=
        List.filter_cons_of_pos (decide_eq_true goes)
      rw [if_pos goes, if_pos goes, meets, codesOf, codesOf]
      refine ⟨(map_getLast?_cons_or _ _ _ _).symm, ?_⟩
      cases found : output.code? with
      | none => rw [List.filterMap_cons_none found, Option.map_none, Option.none_or]
      | some code =>
        rw [List.filterMap_cons_some found, map_getLast?_cons_or]
        rfl
    · have misses : meeting world.files root folder stem (output :: outputs) =
          meeting world.files root folder stem outputs :=
        List.filter_cons_of_neg (mt of_decide_eq_true goes)
      rw [if_neg goes, if_neg goes, Option.none_or, misses]
      exact ⟨rfl, rfl⟩

/-- The last Java text is that of the last output, unless this one has none and an earlier one has
some. -/
theorem codesOf_getLast?_of_getLast? {outputs : List Output} {last : Output}
    (isLast : outputs.getLast? = some last) :
    (codesOf outputs).getLast? = last.code? ↔
      (last.code? = none → ∀ output ∈ outputs, output.code? = none) := by
  obtain ⟨front, rfl⟩ := List.getLast?_eq_some_iff.mp isLast
  cases found : last.code? with
  | none =>
    rw [List.getLast?_eq_none_iff, codesOf, List.filterMap_eq_nil_iff]
    exact ⟨fun others _ => others, fun others => others rfl⟩
  | some code =>
    rw [codesOf, List.filterMap_append, List.filterMap_cons_some found, List.filterMap_nil,
      List.getLast?_concat]
    exact ⟨fun _ isNone => (nomatch isNone), fun _ => rfl⟩

/-- The folders of a run hold no file before it. -/
def IsEmptyFor (files : FileSystem) (root : Path) (outputs : List Output) : Prop :=
  ∀ output ∈ outputs, ∀ name,
    files.contentAt (folderOf files root (modelName output.provider) ++ [name]) = none

/-- After a run into an empty store in which every output is saved, every report is the text of an
output, and what is beside it is the Java text of that output, unless that one has none and another
that was saved there has some. Nothing is said of runs that fail, and there are no links. -/
theorem java_fits_report_iff {root : Path} {outputs : List Output} {saved : List Saved}
    {world after : World} {folder : Place} {stem : Text} {content : Content}
    (isEmpty : IsEmptyFor world.files root outputs)
    (done : (saveAll root outputs).perform world = (.ok saved, after))
    (isFolder : ∃ output ∈ outputs,
      folder = folderOf world.files root (modelName output.provider))
    (isReport : after.files.contentAt (placeIn folder stem ".txt") = some content) :
    ∃ last ∈ outputs, last.GoesTo world.files root folder stem ∧ content = .text last.text ∧
      (after.files.contentAt (placeIn folder stem ".java") = (last.code?).map .text ↔
        (last.code? = none →
          ∀ output ∈ outputs, output.GoesTo world.files root folder stem →
            output.code? = none)) := by
  obtain ⟨report, java⟩ := contentAt_saveAll done folder stem
  obtain ⟨there, isThere, rfl⟩ := isFolder
  rw [placeIn, isEmpty there isThere, ← placeIn, isReport, Option.or_none, eq_comm,
    Option.map_eq_some_iff] at report
  obtain ⟨last, isLast, rfl⟩ := report
  obtain ⟨isOutput, goes⟩ := List.mem_filter.mp (List.mem_of_getLast? isLast)
  refine ⟨last, isOutput, of_decide_eq_true goes, rfl, ?_⟩
  rw [java, placeIn, isEmpty there isThere, Option.or_none,
    Option.map_inj_right fun _ _ => Content.text.inj, codesOf_getLast?_of_getLast? isLast]
  refine imp_congr_right fun _ => ?_
  simp only [meeting, List.mem_filter, decide_eq_true_eq, and_imp]

/-! ### An output without Java text over one with it -/

/-- No file, and the root as the current folder. -/
def emptyWorld : World :=
  { files := { here := [], entries := [] } }

/-- A root for a store. -/
def storeRoot : Path :=
  Path.ofText "results"

/-- An output with a Java block. -/
def withCode : Output :=
  { provider := "vendor/model:free", description := "log in"
    text := "Here it is:\n```java\nclass A \x7b\x7d\n```\n" }

/-- An output without one. -/
def withoutCode : Output :=
  { provider := "model", description := "log in", text := "No answer." }

/-- A run in which the two belong together, as the output that has Java text comes last. -/
theorem java_fits_report_withoutCode_withCode :
    ∃ saved after, (saveAll storeRoot [withoutCode, withCode]).perform emptyWorld =
        (.ok saved, after) ∧
      IsEmptyFor emptyWorld.files storeRoot [withoutCode, withCode] ∧
      ∃ last ∈ [withoutCode, withCode],
        last.GoesTo emptyWorld.files storeRoot ["results", "model"] "log_in" ∧
          Content.text withCode.text = .text last.text ∧
          (after.files.contentAt (placeIn ["results", "model"] "log_in" ".java") =
              last.code?.map .text ↔
            (last.code? = none → ∀ output ∈ [withoutCode, withCode],
              output.GoesTo emptyWorld.files storeRoot ["results", "model"] "log_in" →
                output.code? = none)) := by
  have isEmpty : IsEmptyFor emptyWorld.files storeRoot [withoutCode, withCode] := by
    intro output _ name
    have notRoot : folderOf emptyWorld.files storeRoot (modelName output.provider) ++ [name] ≠ [] :=
      List.append_ne_nil_of_right_ne_nil _ (List.cons_ne_nil _ _)
    rw [FileSystem.contentAt, FileSystem.entry?_of_ne_nil _ notRoot]
    rfl
  refine ⟨_, _, rfl, isEmpty, java_fits_report_iff isEmpty rfl ⟨withCode, by decide, by decide⟩ ?_⟩
  rfl

/-- The Java text of the first output is kept beside the report that the second one is. -/
theorem java_outlives_report :
    ∃ saved after, (saveAll storeRoot [withCode, withoutCode]).perform emptyWorld =
        (.ok saved, after) ∧
      after.files.contentAt (placeIn ["results", "model"] "log_in" ".txt") =
        some (.text withoutCode.text) ∧
      codeOf? withoutCode.text = none ∧
      after.files.contentAt (placeIn ["results", "model"] "log_in" ".java") =
        some (.text "class A \x7b\x7d") :=
  ⟨_, _, rfl, rfl, rfl, rfl⟩

end Store

end BrowserPlan
