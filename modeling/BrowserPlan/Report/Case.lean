/-
This file reads the test cases of a report.

A case starts at its number and reaches to the next one. Its fields are looked for by their
labels, each on its own: a field reaches from its label to the label of the next field at the
start of a line. A label that is not followed by what is looked for does not count, and a
field that is not found is empty. The steps are numbered lines.
-/

import BrowserPlan.Text.Digit
import BrowserPlan.Text.Search

namespace BrowserPlan.Report

/-! ### Cases -/

/-- What a case tests. -/
inductive Category where
  | normal
  | failure
  | boundary
  | security
  deriving DecidableEq, Repr

/-- All categories. -/
def Category.all : List Category :=
  [.normal, .failure, .boundary, .security]

/-- The word for a category. -/
def Category.word : Category → Text
  | .normal => "正常系"
  | .failure => "異常系"
  | .boundary => "境界値"
  | .security => "セキュリティ"

/-- How urgent a case is. -/
inductive Priority where
  | high
  | middle
  | low
  deriving DecidableEq, Repr

/-- All priorities. -/
def Priority.all : List Priority :=
  [.high, .middle, .low]

/-- The word for a priority. -/
def Priority.word : Priority → Text
  | .high => "高"
  | .middle => "中"
  | .low => "低"

/-- A test case. -/
structure Case where
  id : Text
  preconditions : Text
  steps : List Text
  expected : Text
  evidence : Text
  category? : Option Category
  priority? : Option Priority
  deriving DecidableEq, Repr

/-! ### Labels -/

/-- The label of the number of a case. -/
def idLabel : Text := "テストケースID:"

/-- The label of the category. -/
def categoryLabel : Text := "カテゴリ:"

/-- The label of the priority. -/
def priorityLabel : Text := "優先度:"

/-- The label of the preconditions. -/
def preconditionsLabel : Text := "前提条件:"

/-- The label of the steps. -/
def stepsLabel : Text := "テスト手順:"

/-- The label of the expected result. -/
def expectedLabel : Text := "期待結果:"

/-- The label of the evidence. -/
def evidenceLabel : Text := "実装根拠:"

/-! ### Fields -/

/-- The trimmed field behind the first label behind which it can be read, and nothing if there
is none. -/
def field (label : Text) (read : Text → Option Text) (chunk : Text) : Text :=
  let readBehind (text : Text) := (Text.after? label text).bind (Text.afterBlanks read)
  Text.trim ((Text.findFirst readBehind chunk).getD [])

/-- The field from its label to the next one at the start of a line. -/
def fieldUpTo (label next : Text) (chunk : Text) : Text :=
  field label (fun text => (Text.upTo (Text.after? ('\n' :: next)) text).map Prod.fst) chunk

/-- The field from its label to the end of the chunk. -/
def lastField (label : Text) (chunk : Text) : Text :=
  field label some chunk

/-- The first of the choices that stands in brackets behind the label. -/
def choice {Choice : Type} (label : Text) (word : Choice → Text) (choices : List Choice)
    (chunk : Text) : Option Choice :=
  Text.findFirst
    (fun text => do
      let text ← Text.after? "[" (Text.dropBlanks (← Text.after? label text))
      choices.find? fun choice => Text.opensWith (word choice ++ "]") text)
    chunk

/-! ### Steps -/

/-- Recognises the number of a step at the start of a line, and the blanks behind it. -/
def stepMark? (text : Text) : Option Text := do
  let text ← Text.after? "\n" text
  match text.takeWhile Text.isDigit with
  | [] => none
  | _ => return Text.dropBlanks (← Text.after? "." (text.dropWhile Text.isDigit))

/-- The steps of a list of numbered lines, trimmed, without those that are blank. -/
def stepsOf (list : Text) : List Text :=
  ((Text.cutAround stepMark? ('\n' :: list)).map Text.trim).filter (· ≠ [])

/-! ### Cases in a section -/

/-- Reads the label of a case and its number: the letters and three digits. -/
def caseId? (text : Text) : Option Text := do
  let text ← Text.after? "TC-" (Text.dropBlanks (← Text.after? idLabel text))
  let digits := text.take 3
  if digits.length = 3 && digits.all Text.isDigit then some ("TC-" ++ digits) else none

/-- The case of a chunk, if it holds a number. -/
def Case.ofChunk? (chunk : Text) : Option Case :=
  (Text.findFirst caseId? chunk).map fun id =>
    { id
      preconditions := fieldUpTo preconditionsLabel stepsLabel chunk
      steps := stepsOf (fieldUpTo stepsLabel expectedLabel chunk)
      expected := fieldUpTo expectedLabel evidenceLabel chunk
      evidence := lastField evidenceLabel chunk
      category? := choice categoryLabel Category.word Category.all chunk
      priority? := choice priorityLabel Priority.word Priority.all chunk }

/-- The chunks of a section, each but the first starting at the number of a case. -/
def chunks (part : Text) : List Text :=
  (Text.cutBefore (fun text => (caseId? text).isSome) part).map Text.trim

/-- The cases of a section, in order. -/
def casesOf (part : Text) : List Case :=
  (chunks part).filterMap Case.ofChunk?

end BrowserPlan.Report
