/-
This file proves what becomes of the entries of an evaluation when it is exported: those with an
output are saved in order, and the others are counted.

An export that succeeds has read every entry, so it is a run in which the outputs of the entries are
saved one after the other. What an entry says is written down here without the order in which it is
read: only a part that is an object has fields, and an export that meets any other part that counts
as given fails.
-/

import BrowserPlan.Proofs.Except
import BrowserPlan.Proofs.Store.Layout

namespace BrowserPlan.Store

/-! ### What an entry says -/

/-- The value of a field, unless it does not count as given. -/
def given? (name : Text) (value : Json) : Option Json :=
  (value.field? name).filter Json.isGiven

/-- The value of a field of a part of the entry or, if it is not given there, of the entry. -/
def givenIn? (part name : Text) (entry : Json) : Option Json :=
  ((entry.field? part).bind (given? name)).or (given? name entry)

/-- Whether an entry has an output, in its response or of its own. -/
def hasOutput (entry : Json) : Bool :=
  ((entry.field? "response").bind (given? "output")).isSome || (given? "output" entry).isSome

/-- The provider of an entry: by its id, if there are fields to look for it in. -/
def providerOf (entry : Json) : Text :=
  let provider? :=
    match entry.field? "provider" with
    | some (.object fields) => given? "id" (.object fields)
    | _ => given? "provider" entry
  (provider?.map Json.nameText).getD "(unknown-provider)"

/-- The output of the entry at a position, by which it is numbered. -/
def outputOf (position : Nat) (entry : Json) : Output :=
  { provider := providerOf entry
    description :=
      ((givenIn? "testCase" "description" entry).map Json.nameText).getD
        ("test_" ++ Text.ofNat position)
    text := ((givenIn? "response" "output" entry).map Json.nameText).getD [] }

theorem hasOutput_eq (entry : Json) :
    hasOutput entry = (givenIn? "response" "output" entry).isSome :=
  Option.isSome_or.symm

theorem field?_of_not_isGiven {value : Json} (notGiven : ¬ value.isGiven = true) (name : Text) :
    value.field? name = none := by
  cases value with
  | object fields =>
    cases fields with
    | nil => rfl
    | cons field fields => exact absurd rfl notGiven
  | _ => rfl

theorem eq_givenIn?_of_inPart? {part name : Text} {fields : List (Text × Json)}
    {value? : Option Json} (read : inPart? part name fields = .ok value?) :
    value? = givenIn? part name (.object fields) := by
  rw [givenIn?, given?, Json.field?, Json.field?]
  rw [inPart?, givenField?] at read
  cases found : Json.fieldOf? part fields with
  | none =>
    rw [found] at read
    exact (Except.ok.inj read).symm
  | some value =>
    rw [found, Option.filter_some] at read
    split_ifs at read with given
    · cases value with
      | object inner => exact (Except.ok.inj read).symm
      | _ => cases read
    · rw [Option.bind_some, given?, field?_of_not_isGiven given, Option.filter_none, Option.none_or]
      exact (Except.ok.inj read).symm

/-- What is read of an entry is what the entry says. -/
theorem eq_of_ofJson {position : Nat} {entry : Json} {evaluation : Evaluation}
    (read : Evaluation.ofJson position entry = .ok evaluation) :
    evaluation =
      { provider := (outputOf position entry).provider
        description := (outputOf position entry).description
        output? :=
          if hasOutput entry = true then some (outputOf position entry).text else none } := by
  rw [Evaluation.ofJson] at read
  obtain ⟨fields, isObject, rest⟩ := exists_of_bind_eq_ok read
  obtain ⟨description?, readDescription, rest⟩ := exists_of_bind_eq_ok rest
  obtain ⟨output?, readOutput, rest⟩ := exists_of_bind_eq_ok rest
  obtain rfl := Except.ok.inj rest
  cases entry with
  | object inner =>
    obtain rfl := Except.ok.inj isObject
    rw [eq_givenIn?_of_inPart? readDescription, eq_givenIn?_of_inPart? readOutput, hasOutput_eq]
    have outputs : (givenIn? "response" "output" (.object inner)).map Json.nameText =
        if (givenIn? "response" "output" (.object inner)).isSome = true then
          some (outputOf position (.object inner)).text
        else none := by
      rw [outputOf]
      cases givenIn? "response" "output" (.object inner) <;> rfl
    rw [outputs, Evaluation.mk.injEq]
    refine ⟨?_, rfl, rfl⟩
    rw [outputOf, providerOf, Json.field?]
    cases Json.fieldOf? "provider" inner with
    | none => rfl
    | some value => cases value <;> rfl
  | _ => cases isObject

/-! ### The outputs of entries -/

/-- The outputs of the entries that have one, in order. -/
def outputsFrom (position : Nat) (entries : List Json) : List Output :=
  ((entries.zipIdx position).filter fun (entry, _) => hasOutput entry).map fun (entry, position) =>
    outputOf position entry

theorem outputsFrom_cons (position : Nat) (entry : Json) (entries : List Json) :
    outputsFrom position (entry :: entries) =
      if hasOutput entry = true then
        outputOf position entry :: outputsFrom (position + 1) entries
      else outputsFrom (position + 1) entries := by
  rw [outputsFrom, List.zipIdx_cons, List.filter_cons]
  split_ifs <;> rfl

theorem mem_outputsFrom {position : Nat} {entry : Json} {entries : List Json}
    (isEntry : entries[position]? = some entry) (given : hasOutput entry = true) :
    outputOf position entry ∈ outputsFrom 0 entries := by
  refine List.mem_map.mpr ⟨(entry, position), List.mem_filter.mpr ⟨?_, given⟩, rfl⟩
  exact List.mem_zipIdx_iff_getElem?.mpr isEntry

/-- Entries that are exported successfully are saved as outputs or counted as entries without one.
Each is numbered by its position: as many entries as stand before it were saved or skipped. -/
theorem perform_saveAll_of_exportFrom {root : Path} {before : Export} {entries : List Json}
    {result : Export} {world after : World}
    (done : (exportFrom root before entries).perform world = (.ok result, after)) :
    ∃ saved,
      (saveAll root (outputsFrom (before.saved.length + before.skipped) entries)).perform world =
          (.ok saved, after) ∧
        result.saved = before.saved ++ saved ∧
        result.skipped =
          before.skipped + (entries.filter fun entry => !hasOutput entry).length := by
  induction entries generalizing before world with
  | nil =>
    obtain rfl := Work.value_of_pure done
    obtain rfl := Work.world_of_pure done
    exact ⟨[], rfl, (List.append_nil _).symm, rfl⟩
  | cons entry entries inductionHypothesis =>
    rw [exportFrom] at done
    obtain ⟨evaluation, between, reads, handled⟩ := Work.ok_of_perform_bind done
    obtain ⟨read, rfl⟩ := Work.ok_of_perform_ofExcept reads
    rw [eq_of_ofJson read] at handled
    rw [outputsFrom_cons, List.filter_cons]
    -- One of the two counts grows with each entry, so their sum tells the position.
    by_cases given : hasOutput entry = true
    · rw [if_pos given] at handled
      rw [if_pos given, given]
      obtain ⟨item, between, first, others⟩ := Work.ok_of_perform_bind handled
      obtain ⟨saved, runs, inOrder, counts⟩ := inductionHypothesis others
      rw [List.length_append, List.length_singleton, Nat.add_right_comm] at runs
      refine ⟨item :: saved, ?_, by rw [inOrder, List.append_assoc, List.singleton_append], counts⟩
      rw [saveAll, Work.perform_bind, first]
      dsimp only
      rw [Work.perform_bind, runs]
      rfl
    · rw [if_neg given] at handled
      rw [if_neg given, Bool.eq_false_iff.mpr given]
      obtain ⟨saved, runs, inOrder, counts⟩ := inductionHypothesis handled
      refine ⟨saved, runs, inOrder, ?_⟩
      rw [counts, Bool.not_false, if_pos rfl, List.length_cons, Nat.add_right_comm]
      rfl

/-- Every entry gives an output or is skipped. -/
theorem length_outputsFrom (position : Nat) (entries : List Json) :
    (outputsFrom position entries).length + (entries.filter fun entry => !hasOutput entry).length =
      entries.length := by
  induction entries generalizing position with
  | nil => rfl
  | cons entry entries inductionHypothesis =>
    have later := inductionHypothesis (position + 1)
    rw [outputsFrom_cons, List.filter_cons, List.length_cons]
    by_cases given : hasOutput entry = true
    · rw [if_pos given, given, List.length_cons, Bool.not_true, if_neg Bool.false_ne_true]
      omega
    · rw [if_neg given, Bool.eq_false_iff.mpr given, Bool.not_false, if_pos rfl, List.length_cons]
      omega

/-! ### Where the outputs go -/

/-- The files of an output that was saved. -/
def Saved.paths (saved : Saved) : List Path :=
  saved.text :: saved.java?.toList

namespace Output

/-- The path of the file with a suffix that an output is saved to. -/
def path (root : Path) (suffix : Text) (output : Output) : Path :=
  filePath root (modelName output.provider) (stemName output.description) suffix

/-- What is told of the output when it was saved. -/
def savedIn (root : Path) (output : Output) : Saved :=
  { model := modelName output.provider
    text := output.path root ".txt"
    java? := output.code?.map fun _ => output.path root ".java" }

/-- Outputs meet if their files with a suffix are at one place. -/
theorem goesTo_iff {files : FileSystem} {root : Path} {suffix : Text} (long : 2 < suffix.length)
    {output other : Output} :
    other.GoesTo files root (folderOf files root (modelName output.provider))
        (stemName output.description) ↔
      files.placeOf (other.path root suffix) = files.placeOf (output.path root suffix) := by
  rw [path, path, placeOf_filePath _ _ _ _ long, placeOf_filePath _ _ _ _ long, placeIn_inj, GoesTo]
  exact and_congr eq_comm eq_comm

end Output

/-- The outputs whose files with a suffix are at a place. -/
def outputsAt (files : FileSystem) (root : Path) (suffix : Text) (place : Place)
    (outputs : List Output) : List Output :=
  outputs.filter fun output => files.placeOf (output.path root suffix) = place

theorem mem_outputsAt {files : FileSystem} {root : Path} {suffix : Text} {output : Output}
    {outputs : List Output} (member : output ∈ outputs) :
    output ∈ outputsAt files root suffix (files.placeOf (output.path root suffix)) outputs :=
  List.mem_filter.mpr ⟨member, decide_eq_true rfl⟩

/-- Outputs meet at a place just if their paths lead there. -/
theorem meeting_eq (files : FileSystem) (root : Path) (suffix : Text) (long : 2 < suffix.length)
    (output : Output) (outputs : List Output) :
    meeting files root (folderOf files root (modelName output.provider))
        (stemName output.description) outputs =
      outputsAt files root suffix (files.placeOf (output.path root suffix)) outputs :=
  List.filter_congr fun _ _ => decide_eq_decide.mpr (Output.goesTo_iff long)

theorem map_getLast?_or {Item Value : Type} (value : Item → Value) {items : List Item}
    (notEmpty : items ≠ []) (other : Option Value) :
    (items.getLast?.map value).or other = items.getLast?.map value := by
  rw [List.getLast?_eq_some_getLast notEmpty, Option.map_some, Option.some_or]

section Run

variable {root : Path} {outputs : List Output} {saved : List Saved} {world after : World}

/-- What is told of saved outputs is told of each. -/
theorem eq_map_of_saveAll (done : (saveAll root outputs).perform world = (.ok saved, after)) :
    saved = outputs.map (Output.savedIn root) := by
  induction outputs generalizing world saved with
  | nil => exact Work.value_of_pure done
  | cons output outputs inductionHypothesis =>
    obtain ⟨_, _, _, first, rest, rfl⟩ := steps_of_saveAll_cons done
    rw [inductionHypothesis rest, (steps_of_save first).1]
    rfl

/-- The place of an output holds the text of the last output that goes there. -/
theorem contentAt_report_of_saveAll
    (done : (saveAll root outputs).perform world = (.ok saved, after)) {output : Output}
    (member : output ∈ outputs) :
    after.files.contentAt (world.files.placeOf (output.path root ".txt")) =
      (outputsAt world.files root ".txt" (world.files.placeOf (output.path root ".txt"))
        outputs).getLast?.map (.text ·.text) := by
  have report := (contentAt_saveAll done (folderOf world.files root (modelName output.provider))
    (stemName output.description)).1
  rw [← placeOf_filePath _ _ _ _ (by decide), ← Output.path, meeting_eq _ _ ".txt" (by decide)]
    at report
  rw [report, map_getLast?_or _ (List.ne_nil_of_mem (mem_outputsAt member))]

/-- Beside it is the Java text of the last one that has any. -/
theorem contentAt_java_of_saveAll
    (done : (saveAll root outputs).perform world = (.ok saved, after)) {output : Output}
    (member : output ∈ outputs) {code : Text} (hasCode : output.code? = some code) :
    after.files.contentAt (world.files.placeOf (output.path root ".java")) =
      (codesOf (outputsAt world.files root ".java"
        (world.files.placeOf (output.path root ".java")) outputs)).getLast?.map .text := by
  have java := (contentAt_saveAll done (folderOf world.files root (modelName output.provider))
    (stemName output.description)).2
  rw [← placeOf_filePath _ _ _ _ (by decide), ← Output.path, meeting_eq _ _ ".java" (by decide)]
    at java
  have isCode : code ∈ codesOf (outputsAt world.files root ".java"
      (world.files.placeOf (output.path root ".java")) outputs) :=
    List.mem_filterMap.mpr ⟨output, mem_outputsAt member, hasCode⟩
  rw [java, map_getLast?_or _ (List.ne_nil_of_mem isCode)]

/-- A place of none of the files that were saved is as before. -/
theorem contentAt_elsewhere_of_saveAll
    (done : (saveAll root outputs).perform world = (.ok saved, after)) {place : Place}
    (elsewhere : ∀ item ∈ saved, ∀ path ∈ item.paths, place ≠ world.files.placeOf path) :
    after.files.contentAt place = world.files.contentAt place := by
  induction outputs generalizing world saved with
  | nil => rw [Work.world_of_pure done]
  | cons output outputs inductionHypothesis =>
    obtain ⟨_, _, _, first, rest, rfl⟩ := steps_of_saveAll_cons done
    obtain ⟨notHere, notLater⟩ := List.forall_mem_cons.mp elsewhere
    rw [inductionHypothesis rest, (contentAt_of_save first).2 place notHere]
    intro item member path isPath
    rw [FileSystem.placeOf_eq (contentAt_save first).1]
    exact notLater item member path isPath

end Run

/-! ### An export -/

/-- Every entry and every file is accounted for: an entry is saved, in order, or has no output and
is skipped, one without a description is saved under its position, and a file is that of the last
output that goes there or as it was before. -/
structure Accounts (root : Path) (entries : List Json) (before after : FileSystem)
    (result : Export) : Prop where
  counted : result.saved.length + result.skipped = entries.length
  skipped : result.skipped = (entries.filter fun entry => !hasOutput entry).length
  saved : result.saved = (outputsFrom 0 entries).map (Output.savedIn root)
  numbered : ∀ position entry, entries[position]? = some entry → hasOutput entry = true →
    givenIn? "testCase" "description" entry = none →
      ∃ item ∈ result.saved, item.text = filePath root (modelName (providerOf entry))
        (stemName ("test_" ++ Text.ofNat position)) ".txt"
  report : ∀ output ∈ outputsFrom 0 entries,
    after.contentAt (before.placeOf (output.path root ".txt")) =
      (outputsAt before root ".txt" (before.placeOf (output.path root ".txt"))
        (outputsFrom 0 entries)).getLast?.map (.text ·.text)
  java : ∀ output ∈ outputsFrom 0 entries, ∀ code, output.code? = some code →
    after.contentAt (before.placeOf (output.path root ".java")) =
      (codesOf (outputsAt before root ".java" (before.placeOf (output.path root ".java"))
        (outputsFrom 0 entries))).getLast?.map .text
  elsewhere : ∀ place,
    (∀ item ∈ result.saved, ∀ path ∈ item.paths, place ≠ before.placeOf path) →
      after.contentAt place = before.contentAt place

/-- An export that succeeds accounts for every entry and, where there are no links, for every
file. -/
theorem exportAll_accounts {root : Path} {entries : List Json} {result : Export}
    {world after : World}
    (done : (exportAll root entries).perform world = (.ok result, after)) :
    Accounts root entries world.files after.files result := by
  obtain ⟨items, runs, inOrder, counts⟩ := perform_saveAll_of_exportFrom done
  rw [List.nil_append] at inOrder
  rw [Nat.zero_add] at counts
  have saved : result.saved = (outputsFrom 0 entries).map (Output.savedIn root) :=
    inOrder.trans (eq_map_of_saveAll runs)
  refine
    { counted := ?_
      skipped := counts
      saved
      numbered := ?_
      report := fun output member => contentAt_report_of_saveAll runs member
      java := fun output member code hasCode => contentAt_java_of_saveAll runs member hasCode
      elsewhere := fun place elsewhere =>
        contentAt_elsewhere_of_saveAll runs (inOrder ▸ elsewhere) }
  · rw [saved, counts, List.length_map, length_outputsFrom]
  · intro position entry isEntry given noDescription
    refine ⟨_, saved ▸ List.mem_map_of_mem (mem_outputsFrom isEntry given), ?_⟩
    show filePath root (modelName (providerOf entry))
      (stemName (((givenIn? "testCase" "description" entry).map Json.nameText).getD
        ("test_" ++ Text.ofNat position))) ".txt" = _
    rw [noDescription]
    rfl

/-! ### Entries of all shapes -/

/-- An entry in parts, one without an output, one without a description and one that goes where the
first one went. -/
def mixedEntries : List Json :=
  [ .object
      [ ("provider", .object [("id", .string "vendor/model:free")]),
        ("testCase", .object [("description", .string "log in")]),
        ("response", .object [("output", .string withCode.text)]) ],
    .object
      [ ("provider", .string "model"), ("description", .string "log out"), ("response", .null),
        ("output", .string []) ],
    .object [("provider", .string "model"), ("output", .string withCode.text)],
    .object
      [ ("provider", .string "model"), ("description", .string "log in"),
        ("output", .string withoutCode.text) ] ]

/-- A store with a file of another origin in it. -/
def usedWorld : World :=
  { files :=
      { here := []
        entries := [(["results"], .folder), (["results", "notes.txt"], .file (.text "Keep."))] } }

/-- Entries with and without outputs and names, into a store that was used before. -/
theorem exportAll_accounts_mixedEntries :
    ∃ result after, (exportAll storeRoot mixedEntries).perform usedWorld = (.ok result, after) ∧
      result.skipped = 1 ∧ Accounts storeRoot mixedEntries usedWorld.files after.files result := by
  -- what comes of an export cannot be compared as a whole, so only the count is computed
  have succeeds : ((exportAll storeRoot mixedEntries).perform usedWorld).1.toOption.map
      Export.skipped = some 1 := by
    decide +kernel
  obtain ⟨result, given, skips⟩ := Option.map_eq_some_iff.mp succeeds
  cases outcome : (exportAll storeRoot mixedEntries).perform usedWorld with
  | mk answer after =>
    rw [outcome] at given
    cases answer with
    | error failure => cases given
    | ok found =>
      cases given
      exact ⟨result, after, rfl, skips, exportAll_accounts outcome⟩

end BrowserPlan.Store
