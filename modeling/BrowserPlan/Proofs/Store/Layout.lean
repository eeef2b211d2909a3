/-
This file proves where a store keeps what is saved: in the folder of a model, which stands in the
root of the store, and so among its reports.

The names of files and folders are made of texts from outside. No slash is left in them, so each is
at most one part of a path. The name of a file ends in a suffix and is a part of its own in any
case. The name of a model may be empty or consist of points, and then it leads back to the root or
out of it. There are three such names, and with any other one the layout is kept.
-/

import BrowserPlan.Proofs.Store.Name
import BrowserPlan.Proofs.Store.Results

namespace BrowserPlan.Store

/-! ### Names that are parts of paths -/

/-- A name that leads from a folder to what is in it. -/
def IsOrdinary (name : Text) : Prop :=
  name ≠ [] ∧ '/' ∉ name ∧ name ≠ ['.'] ∧ name ≠ ['.', '.']

/-- The names that lead nowhere, or back. -/
def idleNames : List Text :=
  [[], ['.'], ['.', '.']]

/-- A name is ordinary unless it is empty or made of points that mean a folder. -/
theorem isOrdinary_iff {name : Text} (isPart : '/' ∉ name) :
    IsOrdinary name ↔ name ∉ idleNames := by
  simp [IsOrdinary, idleNames, isPart]

theorem isOrdinary_modelName_iff (provider : Text) :
    IsOrdinary (modelName provider) ↔ modelName provider ∉ idleNames :=
  isOrdinary_iff fun member => Bool.noConfusion (isForbidden_of_mem_modelName member)

/-- The name of a file is always ordinary, because of its suffix. -/
theorem isOrdinary_fileName (description : Text) {suffix : Text} (long : 2 < suffix.length)
    (isPart : '/' ∉ suffix) : IsOrdinary (stemName description ++ suffix) := by
  refine ⟨Text.append_ne_of_length_le long (by decide), fun member => ?_,
    Text.append_ne_of_length_le long (by decide), Text.append_ne_of_length_le long (by decide)⟩
  rcases List.mem_append.mp member with inStem | inSuffix
  · exact Bool.noConfusion (isForbidden_of_mem_stemName inStem)
  · exact isPart inSuffix

theorem IsOrdinary.filter_isPart {name : Text} (ordinary : IsOrdinary name) :
    [name].filter Path.isPart = [name] := by
  refine List.filter_cons_of_pos ?_
  rw [Path.isPart, Bool.and_eq_true, decide_eq_true_eq, decide_eq_true_eq]
  exact ⟨ordinary.1, ordinary.2.2.1⟩

theorem IsOrdinary.along {name : Text} (ordinary : IsOrdinary name) (place : Place) :
    FileSystem.along place [name] = place ++ [name] := by
  have notUp : name ≠ ("..".toList) := ordinary.2.2.2
  rw [FileSystem.along, if_neg notUp]
  rfl

/-! ### The layout -/

/-- The path leads from the root to a file in a folder. -/
def InLayout (root path : Path) : Prop :=
  ∃ model file, IsOrdinary model ∧ IsOrdinary file ∧
    path = ⟨root.root, root.parts ++ [model, file]⟩

/-- Under an ordinary name the file lies two parts below the root. -/
theorem filePath_of_isOrdinary (root : Path) {model : Text} (ordinary : IsOrdinary model)
    (stem : Text) {suffix : Text} (long : 2 < suffix.length) :
    filePath root model stem suffix = ⟨root.root, root.parts ++ [model, stem ++ suffix]⟩ := by
  rw [filePath_eq root model stem long, ordinary.filter_isPart, List.append_assoc]
  rfl

/-- Only the name of the model decides whether a file is in the layout. -/
theorem inLayout_filePath_iff (root : Path) (provider description : Text) {suffix : Text}
    (long : 2 < suffix.length) (isPart : '/' ∉ suffix) :
    InLayout root (filePath root (modelName provider) (stemName description) suffix) ↔
      modelName provider ∉ idleNames := by
  rw [← isOrdinary_modelName_iff]
  constructor
  · rintro ⟨model, file, isModel, _, same⟩
    rw [filePath_eq _ _ _ long] at same
    have parts := congrArg Path.parts same
    dsimp only at parts
    rw [List.append_assoc, List.append_cancel_left_eq] at parts
    by_cases said : Path.isPart (modelName provider) = true
    · rw [List.filter_cons_of_pos said, List.filter_nil, List.singleton_append,
        List.cons.injEq] at parts
      rw [parts.1]
      exact isModel
    · rw [List.filter_cons_of_neg said, List.filter_nil, List.nil_append] at parts
      exact absurd (congrArg List.length parts) (Nat.ne_of_lt (Nat.lt_succ_self 1))
  · intro ordinary
    exact ⟨_, _, ordinary, isOrdinary_fileName description long isPart,
      filePath_of_isOrdinary root ordinary _ long⟩

/-! ### The list of reports -/

/-- What is known of the files when a text has been written to a path in the layout: its place is
listed, and the root and the folder are there. -/
structure Lists (files : FileSystem) (root : Path) (model file : Text) : Prop where
  look : files.look root = .folder (files.placeOf root)
  member : ∃ content, (files.placeOf root ++ [model, file], .file content) ∈ files.entries

theorem Lists.mem_reports {files : FileSystem} {root : Path} {model file : Text}
    (lists : Lists files root model file) (isText : isTextName file = true) :
    ∃ listed, reports files root = .ok listed ∧
      ⟨root.root, root.parts ++ [model, file]⟩ ∈ listed := by
  obtain ⟨content, member⟩ := lists.member
  refine ⟨_, by rw [reports, FileSystem.answer, lists.look], ?_⟩
  refine List.mem_map.mpr ⟨[model, file], ?_, rfl⟩
  refine List.mem_mergeSort.mpr (List.mem_filterMap.mpr ⟨_, member, ?_⟩)
  dsimp only
  rw [if_pos]
  · rw [List.drop_left]
  · simp [isText]

theorem placeOf_layout (files : FileSystem) (root : Path) {model file : Text}
    (isModel : IsOrdinary model) (isFile : IsOrdinary file) :
    files.placeOf ⟨root.root, root.parts ++ [model, file]⟩ =
      files.placeOf root ++ [model, file] := by
  have further : root.parts ++ [model, file] = root.parts ++ [model] ++ [file] := by
    rw [List.append_assoc, List.singleton_append]
  rw [FileSystem.placeOf, further, FileSystem.along_append, FileSystem.along_append,
    isModel.along, isFile.along, List.append_assoc]
  rfl

/-- A file that is written in the layout is listed. -/
theorem lists_of_write {files after : FileSystem} {root : Path} {model file text : Text}
    (isModel : IsOrdinary model) (isFile : IsOrdinary file)
    (written : files.write ⟨root.root, root.parts ++ [model, file]⟩ text = .ok after) :
    Lists after root model file := by
  have writes := FileSystem.writes_of_write written
  have here := writes.here
  constructor
  · rw [FileSystem.placeOf_eq here]
    exact FileSystem.look_of_folders here (fun _ => writes.folders)
      (FileSystem.look_of_append (List.cons_ne_nil _ _) writes.arrives)
  · refine ⟨.text text, ?_⟩
    rw [FileSystem.placeOf_eq here, ← placeOf_layout files root isModel isFile, writes.put]
    exact FileSystem.mem_replace _ _ _

theorem Lists.of_write {files after : FileSystem} {root path : Path} {model file text : Text}
    (lists : Lists files root model file) (written : files.write path text = .ok after)
    (elsewhere : files.placeOf root ++ [model, file] ≠ files.placeOf path) :
    Lists after root model file := by
  have writes := FileSystem.writes_of_write written
  have here := writes.here
  obtain ⟨content, member⟩ := lists.member
  constructor
  · rw [FileSystem.placeOf_eq here]
    exact FileSystem.look_of_folders here (fun _ => writes.folders) lists.look
  · refine ⟨content, ?_⟩
    rw [FileSystem.placeOf_eq here, writes.put]
    exact FileSystem.mem_replace_of_ne elsewhere member

/-! ### Saving an output -/

section Saving

variable {root : Path} {provider description output : Text} {saved : Saved} {world after : World}

/-- Saving writes the report, and at most the Java text beside it. -/
theorem contentAt_of_save
    (done : (save root provider description output).perform world = (.ok saved, after)) :
    after.files.contentAt (world.files.placeOf saved.text) = some (.text output) ∧
      ∀ place, (∀ path ∈ saved.text :: saved.java?.toList, place ≠ world.files.placeOf path) →
        after.files.contentAt place = world.files.contentAt place := by
  obtain ⟨rfl, made, written, folders, report, rest⟩ := steps_of_save done
  have same := FileSystem.sameFiles_of_makeFolders folders
  have puts := FileSystem.puts_of_write report
  rw [FileSystem.placeOf_eq same.here] at puts
  cases found : codeOf? output with
  | none =>
    rw [found] at rest
    rw [rest]
    refine ⟨by rw [puts.contentAt, if_pos rfl], fun place elsewhere => ?_⟩
    rw [puts.contentAt, if_neg (elsewhere _ List.mem_cons_self), same.contentAt]
  | some code =>
    rw [found] at rest
    have beside := FileSystem.puts_of_write rest
    rw [FileSystem.placeOf_eq (puts.here.trans same.here)] at beside
    refine ⟨?_, fun place elsewhere => ?_⟩
    · rw [beside.contentAt, if_neg, puts.contentAt, if_pos rfl]
      rw [placeOf_filePath _ _ _ _ (by decide), placeOf_filePath _ _ _ _ (by decide)]
      exact placeIn_ne
    · obtain ⟨notReport, notBeside⟩ := List.forall_mem_cons.mp elsewhere
      rw [beside.contentAt, if_neg (notBeside _ List.mem_cons_self), puts.contentAt,
        if_neg notReport, same.contentAt]

/-- A report that is saved under an ordinary name is listed. -/
theorem lists_of_save
    (done : (save root provider description output).perform world = (.ok saved, after))
    (isModel : IsOrdinary (modelName provider)) :
    Lists after.files root (modelName provider) (stemName description ++ ".txt") := by
  obtain ⟨_, made, written, folders, report, rest⟩ := steps_of_save done
  have isFile : IsOrdinary (stemName description ++ (".txt" : Text)) :=
    isOrdinary_fileName description (by decide) (by decide)
  rw [filePath_of_isOrdinary root isModel _ (by decide)] at report
  have lists := lists_of_write isModel isFile report
  cases found : codeOf? output with
  | none =>
    rw [found] at rest
    rw [rest]
    exact lists
  | some code =>
    rw [found] at rest
    refine lists.of_write rest ?_
    rw [← placeOf_layout written root isModel isFile,
      ← filePath_of_isOrdinary root isModel _ (by decide), placeOf_filePath _ _ _ _ (by decide),
      placeOf_filePath _ _ _ _ (by decide)]
    exact placeIn_ne

/-- Saving writes nothing but the report and the Java text beside it. These are in the layout, and
the report is listed, unless the name of the model is empty or leads nowhere or back; then neither
is in the layout. There are no links that could lead out of it. -/
theorem save_inLayout_iff
    (done : (save root provider description output).perform world = (.ok saved, after)) :
    after.files.contentAt (world.files.placeOf saved.text) = some (.text output) ∧
      (∀ place, (∀ path ∈ saved.text :: saved.java?.toList, place ≠ world.files.placeOf path) →
        after.files.contentAt place = world.files.contentAt place) ∧
      (∀ path ∈ saved.text :: saved.java?.toList,
        InLayout root path ↔ modelName provider ∉ idleNames) ∧
      (modelName provider ∉ idleNames →
        ∃ listed, reports after.files root = .ok listed ∧ saved.text ∈ listed) := by
  obtain ⟨isReport, others⟩ := contentAt_of_save done
  obtain ⟨names, _⟩ := steps_of_save done
  refine ⟨isReport, others, ?_, fun isModel => ?_⟩
  · rw [names]
    intro path member
    obtain rfl | isJava := List.mem_cons.mp member
    · exact inLayout_filePath_iff root provider description (by decide) (by decide)
    · obtain ⟨_, _, rfl⟩ := Option.map_eq_some_iff.mp (Option.mem_toList.mp isJava)
      exact inLayout_filePath_iff root provider description (by decide) (by decide)
  · rw [← isOrdinary_modelName_iff] at isModel
    rw [names, filePath_of_isOrdinary root isModel _ (by decide)]
    refine (lists_of_save done isModel).mem_reports ?_
    rw [isTextName, List.reverse_append, Text.after?_append]
    rfl

end Saving

/-! ### A name that leads out of the store -/

/-- An output whose model has a name like any other. -/
theorem save_inLayout_iff_withCode :
    ∃ saved after, (save storeRoot withCode.provider withCode.description withCode.text).perform
        emptyWorld = (.ok saved, after) ∧
      modelName withCode.provider ∉ idleNames ∧
      InLayout storeRoot saved.text ∧
      ∃ listed, reports after.files storeRoot = .ok listed ∧ saved.text ∈ listed := by
  refine ⟨_, _, rfl, by decide, ?_⟩
  obtain ⟨_, _, layout, isListed⟩ :=
    save_inLayout_iff (show (save storeRoot withCode.provider withCode.description
      withCode.text).perform emptyWorld = (.ok _, _) from rfl)
  exact ⟨(layout _ List.mem_cons_self).mpr (by decide), isListed (by decide)⟩

/-- A model that is called by two points: its report stands beside the store and is not listed. -/
theorem not_inLayout_of_points :
    ∃ saved after, (save storeRoot ".." "log in" "No answer.").perform emptyWorld =
        (.ok saved, after) ∧
      ¬ InLayout storeRoot saved.text ∧
      after.files.contentAt ["log_in.txt"] = some (.text "No answer.") ∧
      reports after.files storeRoot = .ok [] := by
  refine ⟨_, _, rfl, ?_, rfl, ?_⟩
  · rintro ⟨model, file, isModel, _, same⟩
    have parts := congrArg Path.parts same
    obtain rfl : ("..".toList) = model := (List.cons.inj (List.cons.inj parts).2).1
    exact isModel.2.2.2 rfl
  · -- nothing is found, and nothing is left to be sorted
    show Except.ok (List.map _ (List.mergeSort [] placeNotAfter)) = _
    rw [List.mergeSort_nil]
    rfl

end BrowserPlan.Store
