/-
This file keeps the outputs of models in a store: a folder for each model and in it a text
file for each description, with the Java text of its blocks beside it if there is any.
-/

import BrowserPlan.Work
import BrowserPlan.Report.Fence
import BrowserPlan.Store.Name

namespace BrowserPlan.Store

/-! ### Saving one output -/

/-- Where an output was saved. -/
structure Saved where
  model : Text
  text : Path
  java? : Option Path
  deriving DecidableEq, Repr

/-- The path of a file of the store. -/
def filePath (root : Path) (model stem suffix : Text) : Path :=
  (root.child model).child (stem ++ suffix)

/-- Saves an output, and its Java text if that is not empty. -/
def save (root : Path) (provider description output : Text) : Work FileSystem Saved := do
  let model := modelName provider
  let stem := stemName description
  Work.change (·.makeFolders (root.child model))
  let text := filePath root model stem ".txt"
  Work.writeText text output
  match Report.joinedBlocks? output with
  | none | some [] => return { model, text, java? := none }
  | some code =>
      let java := filePath root model stem ".java"
      Work.writeText java code
      return { model, text, java? := some java }

/-! ### Saving many outputs -/

/-- An entry of an evaluation: what it is saved under, and its output if it has one. -/
structure Evaluation where
  provider : Text
  description : Text
  output? : Option Text
  deriving DecidableEq, Repr

/-- The value of a field, if it counts as given. -/
def givenField? (name : Text) (fields : List (Text × Json)) : Option Json :=
  (Json.fieldOf? name fields).filter Json.isGiven

/-- The value of a field that is looked for in a part of the entry first. -/
def inPart? (part name : Text) (fields : List (Text × Json)) : Except ShapeFault (Option Json) :=
  match givenField? part fields with
  | none => .ok (givenField? name fields)
  | some value =>
      value.needFields.map fun inner => (givenField? name inner).or (givenField? name fields)

/-- Reads an entry, which goes by a number if it has no description. -/
def Evaluation.ofJson (number : Nat) (entry : Json) : Except ShapeFault Evaluation := do
  let fields ← entry.needFields
  let provider? :=
    match Json.fieldOf? "provider" fields with
    | some (.object inner) => givenField? "id" inner
    | _ => givenField? "provider" fields
  let description? ← inPart? "testCase" "description" fields
  let output? ← inPart? "response" "output" fields
  return {
    provider := (provider?.map Json.nameText).getD "(unknown-provider)"
    description := (description?.map Json.nameText).getD ("test_" ++ Text.ofNat number)
    output? := output?.map Json.nameText }

/-- What was saved, and how many entries had no output. -/
structure Export where
  saved : List Saved
  skipped : Nat
  deriving DecidableEq, Repr

/-- Saves entries in order, with what came of those before them. An entry without a description
is numbered by how many were saved or skipped before it. -/
def exportFrom (root : Path) (before : Export) : List Json → Work FileSystem Export
  | [] => return before
  | entry :: entries => do
      let number := before.saved.length + before.skipped
      let evaluation ← Work.ofExcept .shape (Evaluation.ofJson number entry)
      match evaluation.output? with
      | none => exportFrom root { before with skipped := before.skipped + 1 } entries
      | some output =>
          let saved ← save root evaluation.provider evaluation.description output
          exportFrom root { before with saved := before.saved ++ [saved] } entries

/-- Saves the entries of an evaluation in order. -/
def exportAll (root : Path) (entries : List Json) : Work FileSystem Export :=
  exportFrom root { saved := [], skipped := 0 } entries

/-- The entries of an evaluation, in either of two shapes; any other value has none. -/
def entriesOf (value : Json) : List Json :=
  let results? := value.field? "results"
  let inner? :=
    match results? with
    | some (.object fields) => Json.fieldOf? "results" fields
    | other => other
  (inner?.bind Json.array?).getD []

/-- Reads the entries of an evaluation from a file. -/
def load (path : Path) : Work FileSystem (List Json) := do
  let text ← Work.readText path
  return entriesOf (← Work.ofExcept (.json · text) (Json.parse text))

/-! ### Listing -/

/-- Whether a name is that of a text file. -/
def isTextName (name : Text) : Bool :=
  (Text.after? ".txt".toList.reverse name.reverse).isSome

/-- The order of places, part by part. -/
def placeNotAfter (first second : Place) : Bool :=
  !decide (second < first)

/-- The parts that lead from a folder to the text files in its folders, in order. -/
def reportsUnder (files : FileSystem) (folder : Place) : List Place :=
  let found := files.entries.filterMap fun (place, entry) =>
    match entry with
    | .folder => none
    | .file _ =>
        if place.take folder.length = folder && place.length = folder.length + 2 &&
            isTextName (place.getLast?.getD []) then
          some (place.drop folder.length)
        else none
  found.mergeSort placeNotAfter

/-- The reports of a store: the text files in the folders of its root. -/
def reports (files : FileSystem) (root : Path) : Except FileFault (List Path) :=
  files.answer root [] fun
    | .folder place =>
        (reportsUnder files place).map fun parts => { root with parts := root.parts ++ parts }
    | _ => []

end BrowserPlan.Store
