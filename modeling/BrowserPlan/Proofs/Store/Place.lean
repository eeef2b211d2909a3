/-
This file proves what making folders and writing a text do to the files that are there.

A path that leads to a folder, to a file or to a vacant place leads to the place that its parts name
one after the other, whatever else there is on the way. So the place of a file is known before the
file is there, and work on files is described by what they hold, place by place: making folders
changes no file, and writing a text changes the one at the place of its path.
-/

import BrowserPlan.Proofs.Store.Path

namespace BrowserPlan.FileSystem

/-! ### What files hold -/

/-- What the file at a place holds, if there is one. -/
def contentAt (files : FileSystem) (place : Place) : Option Content :=
  match files.entry? place with
  | some (.file content) => some content
  | _ => none

theorem contentAt_eq {files other : FileSystem} {place : Place}
    (same : files.entry? place = other.entry? place) :
    files.contentAt place = other.contentAt place := by
  rw [contentAt, contentAt, same]

theorem isSame_eq_false {place other : Place} (different : place ≠ other) :
    isSame place other = false :=
  Bool.eq_false_iff.mpr (mt (isSame_iff place other).mp different)

/-- Only the root is a folder in any case. -/
theorem entry?_of_ne_nil (files : FileSystem) {place : Place} (notRoot : place ≠ []) :
    files.entry? place =
      (files.entries.find? fun entry => isSame entry.1 place).map Prod.snd :=
  if_neg notRoot

theorem entry?_nil (files : FileSystem) : files.entry? [] = some .folder :=
  rfl

theorem find?_replace (place : Place) (entry : Entry) (entries : List (Place × Entry))
    (other : Place) :
    ((put.replace place entry entries).find? fun found => isSame found.1 other).map Prod.snd =
      if other = place then some entry
      else (entries.find? fun found => isSame found.1 other).map Prod.snd := by
  induction entries with
  | nil =>
    rw [put.replace, List.find?_cons, List.find?_nil]
    split_ifs with same
    · rw [(isSame_iff place other).mpr same.symm]
      rfl
    · rw [isSame_eq_false (Ne.symm same)]
  | cons first entries inductionHypothesis =>
    obtain ⟨here, old⟩ := first
    rw [put.replace, List.find?_cons]
    by_cases replaced : isSame here place = true
    · obtain rfl := (isSame_iff here place).mp replaced
      rw [if_pos replaced, List.find?_cons]
      split_ifs with same
      · rw [(isSame_iff here other).mpr same.symm]
        rfl
      · rw [isSame_eq_false (Ne.symm same)]
    · rw [if_neg replaced, List.find?_cons]
      by_cases found : isSame here other = true
      · obtain rfl := (isSame_iff here other).mp found
        rw [found, if_neg fun same => replaced ((isSame_iff here place).mpr same)]
      · rw [Bool.eq_false_iff.mpr found]
        exact inductionHypothesis

/-- Putting something at a place changes no other one. -/
theorem entry?_put (files : FileSystem) {place : Place} (notRoot : place ≠ []) (entry : Entry)
    (other : Place) :
    FileSystem.entry? (files.put place entry) other =
      if other = place then some entry else files.entry? other := by
  by_cases root : other = []
  · rw [root, entry?_nil, entry?_nil, if_neg notRoot.symm]
  · rw [entry?_of_ne_nil _ root, entry?_of_ne_nil _ root]
    exact find?_replace place entry files.entries other

theorem mem_replace (place : Place) (entry : Entry) (entries : List (Place × Entry)) :
    (place, entry) ∈ put.replace place entry entries := by
  induction entries with
  | nil => exact List.mem_singleton_self _
  | cons first entries inductionHypothesis =>
    rw [put.replace]
    split
    · exact List.mem_cons_self
    · exact List.mem_cons_of_mem _ inductionHypothesis

theorem mem_replace_of_ne {place other : Place} {entry old : Entry}
    {entries : List (Place × Entry)} (different : other ≠ place)
    (member : (other, old) ∈ entries) : (other, old) ∈ put.replace place entry entries := by
  induction entries with
  | nil => exact absurd member List.not_mem_nil
  | cons first entries inductionHypothesis =>
    rw [put.replace]
    split_ifs with same
    · obtain rfl | further := List.mem_cons.mp member
      · exact absurd ((isSame_iff _ _).mp same) different
      · exact List.mem_cons_of_mem _ further
    · obtain rfl | further := List.mem_cons.mp member
      · exact List.mem_cons_self
      · exact List.mem_cons_of_mem _ (inductionHypothesis further)

theorem contentAt_put_file (files : FileSystem) {place : Place} (notRoot : place ≠ [])
    (content : Content) (other : Place) :
    (files.put place (.file content)).contentAt other =
      if other = place then some content else files.contentAt other := by
  rw [contentAt, entry?_put files notRoot]
  split_ifs <;> rfl

/-- Where there is no file, there is none behind a folder either. -/
theorem contentAt_put_folder (files : FileSystem) {place : Place} (notRoot : place ≠ [])
    (noFile : files.contentAt place = none) (other : Place) :
    (files.put place .folder).contentAt other = files.contentAt other := by
  rw [contentAt, entry?_put files notRoot]
  split_ifs with same
  · rw [same, noFile]
  · rfl

/-! ### Where paths lead -/

/-- The place to which parts lead from a place. -/
def along (place : Place) : List Text → Place
  | [] => place
  | part :: parts =>
      along (if part = ("..".toList) then place.dropLast else place ++ [part]) parts

theorem along_append (place : Place) (parts more : List Text) :
    along place (parts ++ more) = along (along place parts) more := by
  induction parts generalizing place with
  | nil => rfl
  | cons part parts inductionHypothesis => exact inductionHypothesis _

/-- The place to which a path leads. -/
def placeOf (files : FileSystem) (path : Path) : Place :=
  along (files.origin path) path.parts

theorem placeOf_eq {files other : FileSystem} (here : files.here = other.here) (path : Path) :
    files.placeOf path = other.placeOf path := by
  rw [placeOf, placeOf, origin, origin, here]

/-- A plan is not put where the path leads that it is the plan for. -/
theorem placeOf_planPath_ne (files : FileSystem) {path beside : Path}
    (isBeside : path.planPath = .ok beside) : files.placeOf beside ≠ files.placeOf path := by
  obtain ⟨parts, rfl⟩ := Path.parts_of_planPath isBeside
  have sameOrigin : files.origin ⟨path.root, path.parts.dropLast ++ [path.stem ++
      ".playwright-plan.json"]⟩ = files.origin path := rfl
  rw [placeOf, placeOf, sameOrigin, along_append, parts, along_append, List.dropLast_concat]
  generalize along (files.origin path) path.parts.dropLast = folder
  rw [along, along, along, along, if_neg (Text.append_ne_of_length_le (by decide) (by decide))]
  split_ifs with up
  · intro same
    have length := congrArg List.length same
    rw [List.length_append, List.length_dropLast, List.length_singleton] at length
    omega
  · intro same
    exact Path.planName_ne path.name (List.append_singleton_inj.mp same).2

/-- What is known of where following a path ends: a file or a vacant place is at the place to which
the path leads. -/
def Arrival.LeadsTo (files : FileSystem) (place : Place) : Arrival → Prop
  | .file found content =>
      found = place ∧ place ≠ [] ∧ files.entry? place = some (.file content)
  | .vacant found => found = place ∧ place ≠ [] ∧ files.entry? place = none
  | .folder _ | .refused _ => True

/-- Following parts leads along them or fails. -/
theorem leadsTo_follow (files : FileSystem) (place : Place) (parts : List Text) :
    (files.follow place parts).LeadsTo files (along place parts) := by
  induction parts generalizing place with
  | nil => trivial
  | cons part parts inductionHypothesis =>
    rw [follow, along]
    by_cases up : part = ("..".toList)
    · rw [if_pos up, if_pos up]
      exact inductionHypothesis _
    rw [if_neg up, if_neg up]
    by_cases long : nameLimit < Utf8.size part
    · rw [if_pos long]
      trivial
    have notRoot : place ++ [part] ≠ [] :=
      List.append_ne_nil_of_right_ne_nil _ (List.cons_ne_nil _ _)
    rw [if_neg long]
    cases found : files.entry? (place ++ [part]) with
    | none =>
      cases parts with
      | nil => exact ⟨rfl, notRoot, found⟩
      | cons => trivial
    | some entry =>
      cases entry with
      | folder => exact inductionHypothesis _
      | file content =>
        cases parts with
        | nil => exact ⟨rfl, notRoot, found⟩
        | cons => trivial

/-- Looking for a path leads to its place or fails. -/
theorem leadsTo_look (files : FileSystem) (path : Path) :
    (files.look path).LeadsTo files (files.placeOf path) := by
  rw [look]
  split
  · trivial
  · exact leadsTo_follow files _ _

/-! ### Folders on the way -/

/-- If parts lead anywhere at all, all but the last lead to folders. -/
theorem follow_of_append {files : FileSystem} {place : Place} {parts more : List Text}
    (further : more ≠ [])
    (arrives : ∀ problem, files.follow place (parts ++ more) ≠ .refused problem) :
    files.follow place parts = .folder (along place parts) := by
  induction parts generalizing place with
  | nil => rfl
  | cons part parts inductionHypothesis =>
    -- With more parts to come, only a folder lets the walk go on.
    have notLast : parts ++ more ≠ [] := List.append_ne_nil_of_right_ne_nil _ further
    rw [List.cons_append, follow] at arrives
    rw [follow, along]
    by_cases up : part = ("..".toList)
    · rw [if_pos up] at arrives
      rw [if_pos up, if_pos up]
      exact inductionHypothesis arrives
    rw [if_neg up] at arrives
    rw [if_neg up, if_neg up]
    by_cases long : nameLimit < Utf8.size part
    · rw [if_pos long] at arrives
      exact absurd rfl (arrives _)
    rw [if_neg long] at arrives
    rw [if_neg long]
    cases found : files.entry? (place ++ [part]) with
    | none =>
      simp only [found, if_neg notLast] at arrives
      exact absurd rfl (arrives _)
    | some entry =>
      cases entry with
      | folder =>
        simp only [found] at arrives
        exact inductionHypothesis arrives
      | file content =>
        simp only [found, if_neg notLast] at arrives
        exact absurd rfl (arrives _)

/-- Where the folders of one file system are folders too, the same parts lead to them. -/
theorem follow_of_folders {files after : FileSystem} {place found : Place} {parts : List Text}
    (folders : ∀ place, files.entry? place = some .folder → after.entry? place = some .folder)
    (arrives : files.follow place parts = .folder found) :
    after.follow place parts = .folder found := by
  induction parts generalizing place with
  | nil => exact arrives
  | cons part parts inductionHypothesis =>
    rw [follow] at arrives ⊢
    by_cases up : part = ("..".toList)
    · rw [if_pos up] at arrives ⊢
      exact inductionHypothesis arrives
    rw [if_neg up] at arrives ⊢
    by_cases long : nameLimit < Utf8.size part
    · rw [if_pos long] at arrives
      cases arrives
    rw [if_neg long] at arrives ⊢
    cases here : files.entry? (place ++ [part]) with
    | none =>
      rw [here] at arrives
      cases parts <;> cases arrives
    | some entry =>
      rw [here] at arrives
      cases entry with
      | folder =>
        rw [folders _ here]
        exact inductionHypothesis arrives
      | file content => cases parts <;> cases arrives

/-- The folder that a path is in can be reached if the path leads anywhere. -/
theorem look_of_append {files : FileSystem} {root : Text} {parts more : List Text}
    (further : more ≠ [])
    (arrives : ∀ problem, files.look ⟨root, parts ++ more⟩ ≠ .refused problem) :
    files.look ⟨root, parts⟩ = .folder (files.placeOf ⟨root, parts⟩) := by
  rw [look] at arrives
  cases usable : pathProblem? ⟨root, parts ++ more⟩ with
  | some problem =>
    rw [usable] at arrives
    exact absurd rfl (arrives problem)
  | none =>
    rw [usable] at arrives
    rw [look, pathProblem?_of_append usable]
    exact follow_of_append further arrives

theorem look_of_folders {files after : FileSystem} {path : Path} {found : Place}
    (here : after.here = files.here)
    (folders : ∀ place, files.entry? place = some .folder → after.entry? place = some .folder)
    (arrives : files.look path = .folder found) : after.look path = .folder found := by
  rw [look] at arrives ⊢
  cases usable : pathProblem? path with
  | some problem =>
    rw [usable] at arrives
    cases arrives
  | none =>
    rw [usable] at arrives
    rw [origin, here, ← origin]
    exact follow_of_folders folders arrives

/-! ### Writing a text -/

/-- A text is only written where a path leads and no folder is. -/
structure Writes (files : FileSystem) (path : Path) (text : Text) (after : FileSystem) : Prop where
  put : after = files.put (files.placeOf path) (.file (.text text))
  notRoot : files.placeOf path ≠ []
  notFolder : files.entry? (files.placeOf path) ≠ some .folder
  arrives (problem : FileProblem) : files.look path ≠ .refused problem

/-- Writing puts a file at the place of the path, in a folder that is there. -/
theorem writes_of_write {files after : FileSystem} {path : Path} {text : Text}
    (written : files.write path text = .ok after) : files.Writes path text after := by
  have leads := leadsTo_look files path
  rw [write] at written
  cases found : files.look path with
  | file place content =>
    rw [found] at leads written
    obtain ⟨rfl, notRoot, isFile⟩ := leads
    cases written
    exact ⟨rfl, notRoot, by simp [isFile], by simp [found]⟩
  | vacant place =>
    rw [found] at leads written
    obtain ⟨rfl, notRoot, isVacant⟩ := leads
    cases written
    exact ⟨rfl, notRoot, by simp [isVacant], by simp [found]⟩
  | folder place =>
    rw [found] at written
    cases written
  | refused problem =>
    rw [found] at written
    cases written

theorem Writes.here {files after : FileSystem} {path : Path} {text : Text}
    (writes : files.Writes path text after) : after.here = files.here := by
  rw [writes.put]
  rfl

/-- Every folder stays one. -/
theorem Writes.folders {files after : FileSystem} {path : Path} {text : Text}
    (writes : files.Writes path text after) {place : Place}
    (isFolder : files.entry? place = some .folder) : after.entry? place = some .folder := by
  rw [writes.put, entry?_put files writes.notRoot, if_neg]
  · exact isFolder
  · rintro rfl
    exact writes.notFolder isFolder

/-- Files that hold what the others do, seen from the same folder, apart from one place. -/
structure Puts (files after : FileSystem) (place : Place) (content : Content) : Prop where
  here : after.here = files.here
  contentAt (other : Place) :
    after.contentAt other = if other = place then some content else files.contentAt other

/-- A file that is written holds its text, and all others hold what they did. -/
theorem puts_of_write {files after : FileSystem} {path : Path} {text : Text}
    (written : files.write path text = .ok after) :
    files.Puts after (files.placeOf path) (.text text) := by
  have writes := writes_of_write written
  refine ⟨writes.here, ?_⟩
  rw [writes.put]
  exact contentAt_put_file files writes.notRoot (.text text)

/-! ### Making folders -/

/-- Files that hold what the others do, seen from the same folder. -/
structure SameFiles (files after : FileSystem) : Prop where
  here : after.here = files.here
  contentAt (place : Place) : after.contentAt place = files.contentAt place

theorem SameFiles.trans {files between after : FileSystem} (first : files.SameFiles between)
    (second : between.SameFiles after) : files.SameFiles after :=
  ⟨second.here.trans first.here,
    fun place => (second.contentAt place).trans (first.contentAt place)⟩

/-- A folder at a place where nothing was changes no file. -/
theorem sameFiles_cons {files : FileSystem} {place : Place} (vacant : files.entry? place = none) :
    files.SameFiles { files with entries := (place, .folder) :: files.entries } := by
  refine ⟨rfl, fun other => ?_⟩
  by_cases root : other = []
  · rw [root]
    rfl
  by_cases same : isSame place other = true
  · obtain rfl := (isSame_iff place other).mp same
    rw [contentAt, entry?_of_ne_nil _ root, List.find?_cons, same, contentAt, vacant]
    rfl
  · refine contentAt_eq ?_
    rw [entry?_of_ne_nil _ root, entry?_of_ne_nil _ root, List.find?_cons,
      Bool.eq_false_iff.mpr same]

theorem sameFiles_of_makeFrom {files after : FileSystem} {root : Text} {place : Place}
    {passed parts : List Text} (made : files.makeFrom root place passed parts = .ok after) :
    files.SameFiles after := by
  induction parts generalizing files place passed with
  | nil =>
    cases made
    exact ⟨rfl, fun _ => rfl⟩
  | cons part parts inductionHypothesis =>
    rw [makeFrom] at made
    dsimp only at made
    split_ifs at made with up long
    · exact inductionHypothesis made
    · cases found : files.entry? (place ++ [part]) with
      | none =>
        rw [found] at made
        exact (sameFiles_cons found).trans (inductionHypothesis made)
      | some entry =>
        rw [found] at made
        cases entry with
        | folder => exact inductionHypothesis made
        | file content => cases made

/-- Making folders changes no file. -/
theorem sameFiles_of_makeFolders {files after : FileSystem} {path : Path}
    (made : files.makeFolders path = .ok after) : files.SameFiles after := by
  have leads := leadsTo_look files path
  rw [makeFolders] at made
  split at made
  · cases made
    exact ⟨rfl, fun _ => rfl⟩
  · cases made
  · rename_i place arrives
    rw [arrives] at leads
    obtain ⟨rfl, notRoot, vacant⟩ := leads
    cases made
    have noFile : files.contentAt (files.placeOf path) = none := by
      rw [contentAt, vacant]
    exact ⟨rfl, contentAt_put_folder files notRoot noFile⟩
  · dsimp only at made
    split_ifs at made
    exact sameFiles_of_makeFrom made
  · cases made

end BrowserPlan.FileSystem
