/-
This file writes test cases as a report holds them.

A case is written as a block of lines, each with a label and a value; the steps are numbered
lines below their label. The labels do not start inside of one another or inside of anything else
that a block holds apart from its values, so that a label is found in a block where it stands.
-/

import BrowserPlan.Proofs.Text.Cut
import BrowserPlan.Report.Case

namespace BrowserPlan.Report

/-! ### Labels -/

/-- The labels of a case in the order in which they are written. -/
inductive Label where
  | id
  | category
  | priority
  | preconditions
  | steps
  | expected
  | evidence
  deriving DecidableEq, Repr

namespace Label

/-- The label as it is written. -/
def text : Label → Text
  | .id => idLabel
  | .category => categoryLabel
  | .priority => priorityLabel
  | .preconditions => preconditionsLabel
  | .steps => stepsLabel
  | .expected => expectedLabel
  | .evidence => evidenceLabel

/-- The labels at which a case or a field of it ends. -/
def marks : List Label :=
  [.id, .steps, .expected, .evidence]

/-- How a label starts. -/
def head : Label → Char
  | .id => 'テ'
  | .category => 'カ'
  | .priority => '優'
  | .preconditions => '前'
  | .steps => 'テ'
  | .expected => '期'
  | .evidence => '実'

theorem head?_text (label : Label) : label.text.head? = some label.head := by
  cases label <;> rfl

theorem text_id : Label.id.text = Label.id.head :: "ストケースID:".toList := by
  decide

theorem text_evidence : Label.evidence.text = "実装根拠".toList ++ [':'] := by
  decide

theorem isBlank_head (label : Label) : Text.isBlank label.head = false := by
  cases label <;> rfl

theorem isDigit_head (label : Label) : Text.isDigit label.head = false := by
  cases label <;> rfl

theorem newline_not_mem_text (label : Label) : '\n' ∉ label.text := by
  cases label <;> decide

theorem isApart_space (label : Label) : Text.isApart label.text " " = true := by
  cases label <;> rfl

/-- A label starts in no other one. -/
theorem isApart_text_eq (label other : Label) :
    Text.isApart label.text other.text = decide (label ≠ other) := by
  cases label <;> cases other <;> rfl

theorem isApart_text {label other : Label} (different : label ≠ other) :
    Text.isApart label.text other.text = true :=
  (isApart_text_eq label other).trans (decide_eq_true different)

/-- A label begins nowhere in a part without its first character. -/
theorem isApart_of_head_not_mem {label : Label} {part : Text} (missing : label.head ∉ part) :
    Text.isApart label.text part = true := by
  obtain ⟨rest, equal⟩ := List.head?_eq_some_iff.mp label.head?_text
  rw [equal]
  exact Text.isApart_of_head_not_mem missing rest

end Label

/-! ### Cases as they are written -/

/-- What is written of a case. -/
structure WrittenCase where
  number : Text
  category : Category
  priority : Priority
  preconditions : Text
  steps : List Text
  expected : Text
  evidence : Text
  deriving DecidableEq, Repr

namespace WrittenCase

/-- The case that is meant. -/
def toCase (written : WrittenCase) : Case :=
  { id := "TC-" ++ written.number
    preconditions := written.preconditions
    steps := written.steps
    expected := written.expected
    evidence := written.evidence
    category? := some written.category
    priority? := some written.priority }

/-- A line with a label and a value. -/
def line (label : Label) (value : Text) : Text :=
  label.text ++ (" " ++ (value ++ "\n"))

/-- Steps, each behind a newline and its number. -/
def stepLines : (number : Nat) → List Text → Text
  | _, [] => []
  | number, step :: steps =>
      "\n" ++ (Text.ofNat number ++ (". " ++ (step ++ stepLines (number + 1) steps)))

/-- The lines of a case up to its preconditions. -/
def heading (written : WrittenCase) : Text :=
  line .id ("TC-" ++ written.number) ++ line .category ("[" ++ (written.category.word ++ "]")) ++
    line .priority ("[" ++ (written.priority.word ++ "]"))

/-- The lines of a case up to its steps. -/
def upToSteps (written : WrittenCase) : Text :=
  written.heading ++ line .preconditions written.preconditions

/-- The lines of a case up to what is expected. -/
def upToExpected (written : WrittenCase) : Text :=
  written.upToSteps ++ (Label.steps.text ++ (stepLines 1 written.steps ++ "\n"))

/-- The lines of a case up to its evidence. -/
def upToEvidence (written : WrittenCase) : Text :=
  written.upToExpected ++ line .expected written.expected

/-- The lines of a case. -/
def text (written : WrittenCase) : Text :=
  written.upToEvidence ++ line .evidence written.evidence

end WrittenCase

example :
    WrittenCase.text
      { number := "007"
        category := .boundary
        priority := .high
        preconditions := "a"
        steps := ["b", "c"]
        expected := "d"
        evidence := "e" } =
      "テストケースID: TC-007\n" ++ "カテゴリ: [境界値]\n" ++ "優先度: [高]\n" ++
        "前提条件: a\n" ++ "テスト手順:\n" ++ "1. b\n" ++ "2. c\n" ++ "期待結果: d\n" ++
        "実装根拠: e\n" := by
  decide +kernel

/-! ### Cases that can be written -/

/-- Whether a value can stand in a field: it has no blanks around it and holds no label that ends
a field or a case. -/
structure IsField (value : Text) : Prop where
  trimmed : Text.trim value = value
  unmarked : ∀ label ∈ Label.marks, ¬ label.text <:+: value

/-- Whether a value can be a step: it also is not empty and stands on one line. -/
structure IsStep (step : Text) : Prop extends IsField step where
  notEmpty : step ≠ []
  noNewline : '\n' ∉ step

/-- Whether the parts of a case can be written. The number has three digits. -/
structure WrittenCase.WellFormed (written : WrittenCase) : Prop where
  length_number : written.number.length = 3
  isDigit_number : ∀ digit ∈ written.number, Text.isDigit digit = true
  preconditions : IsField written.preconditions
  steps : ∀ step ∈ written.steps, IsStep step
  expected : IsField written.expected
  evidence : IsField written.evidence

instance (value : Text) : Decidable (IsField value) :=
  decidable_of_iff
    (Text.trim value = value ∧ ∀ label ∈ Label.marks, ¬ Text.holds label.text value = true)
    ⟨fun both => ⟨both.1, fun label mark => mt Text.holds_iff.mpr (both.2 label mark)⟩,
      fun isField => ⟨isField.trimmed, fun label mark =>
        mt Text.holds_iff.mp (isField.unmarked label mark)⟩⟩

instance (step : Text) : Decidable (IsStep step) :=
  decidable_of_iff (IsField step ∧ step ≠ [] ∧ '\n' ∉ step)
    ⟨fun all => ⟨all.1, all.2.1, all.2.2⟩,
      fun isStep => ⟨isStep.toIsField, isStep.notEmpty, isStep.noNewline⟩⟩

instance (written : WrittenCase) : Decidable written.WellFormed :=
  decidable_of_iff
    ((written.number.length = 3 ∧ written.number.all Text.isDigit = true) ∧
      IsField written.preconditions ∧ (∀ step ∈ written.steps, IsStep step) ∧
        IsField written.expected ∧ IsField written.evidence)
    ⟨fun all => ⟨all.1.1, List.all_eq_true.mp all.1.2, all.2.1, all.2.2.1, all.2.2.2.1,
        all.2.2.2.2⟩,
      fun wellFormed => ⟨⟨wellFormed.length_number,
          List.all_eq_true.mpr wellFormed.isDigit_number⟩,
        wellFormed.preconditions, wellFormed.steps, wellFormed.expected, wellFormed.evidence⟩⟩

/-! ### The digits of a number -/

theorem range_of_mem_ofNat {number : Nat} {char : Char} (member : char ∈ Text.ofNat number) :
    0x30 ≤ char.toNat ∧ char.toNat < 0x30 + 10 := by
  have ascii := Nat.isDigit_of_mem_toDigits (by decide) (by decide) member
  rw [Char.isDigit_iff_toNat] at ascii
  exact ⟨ascii.1, Nat.lt_succ_of_le ascii.2⟩

theorem isDigit_of_mem_ofNat {number : Nat} {char : Char} (member : char ∈ Text.ofNat number) :
    Text.isDigit char = true := by
  have first : (Text.zeros.find? fun first => first ≤ char.toNat && char.toNat < first + 10) =
      some 0x30 :=
    List.find?_cons_of_pos (by simpa using range_of_mem_ofNat member)
  rw [Text.isDigit, Text.digitValue?, first]
  rfl

theorem isBlank_of_mem_ofNat {number : Nat} {char : Char} (member : char ∈ Text.ofNat number) :
    Text.isBlank char = false := by
  have range := range_of_mem_ofNat member
  simp only [Text.isBlank, Bool.or_eq_false_iff, Bool.and_eq_false_imp, decide_eq_true_eq,
    decide_eq_false_iff_not, beq_eq_false_iff_ne]
  omega

/-! ### No label starts but where it stands -/

namespace WrittenCase

open Text (isApart isApart_append)

theorem isApart_line {label other : Label} (different : label ≠ other) {value : Text}
    (apart : isApart label.text (value ++ "\n") = true) :
    isApart label.text (line other value) = true := by
  exact isApart_append (Label.isApart_text different) (isApart_append label.isApart_space apart)

/-- No label is in a field or runs out of it. -/
theorem isApart_field {label : Label} (mark : label ∈ Label.marks) {value : Text}
    (isField : IsField value) : isApart label.text (value ++ "\n") = true :=
  Text.isApart_concat (isField.unmarked label mark) label.newline_not_mem_text

theorem isApart_number {written : WrittenCase} (wellFormed : written.WellFormed) (label : Label) :
    isApart label.text ("TC-" ++ written.number ++ "\n") = true := by
  have notConstant : label.head ∉ ("TC-" : Text) ∧ label.head ∉ ("\n" : Text) := by
    cases label <;> decide
  refine Label.isApart_of_head_not_mem fun member => ?_
  obtain (constant | digit) | newline := (List.mem_append.mp member).imp_left List.mem_append.mp
  · exact notConstant.1 constant
  · exact Bool.eq_false_iff.mp label.isDigit_head (wellFormed.isDigit_number _ digit)
  · exact notConstant.2 newline

theorem isApart_category (label : Label) (category : Category) :
    isApart label.text ("[" ++ (category.word ++ "]") ++ "\n") = true := by
  cases label <;> cases category <;> rfl

theorem isApart_priority (label : Label) (priority : Priority) :
    isApart label.text ("[" ++ (priority.word ++ "]") ++ "\n") = true := by
  cases label <;> cases priority <;> rfl

/-- Behind every step a newline follows. -/
theorem exists_stepLines_append (number : Nat) (steps : List Text) :
    ∃ rest, stepLines number steps ++ "\n" = '\n' :: rest := by
  cases steps with
  | nil => exact ⟨[], rfl⟩
  | cons step steps => exact ⟨_, rfl⟩

theorem isApart_stepLines {label : Label} (mark : label ∈ Label.marks) {steps : List Text}
    (areSteps : ∀ step ∈ steps, IsStep step) (number : Nat) :
    isApart label.text (stepLines number steps ++ "\n") = true := by
  induction steps generalizing number with
  | nil => cases label <;> rfl
  | cons step steps inductionHypothesis =>
    obtain ⟨here, later⟩ := List.forall_mem_cons.mp areSteps
    have further := inductionHypothesis later (number + 1)
    have digits : isApart label.text (Text.ofNat number) = true :=
      Label.isApart_of_head_not_mem fun member =>
        Bool.eq_false_iff.mp label.isDigit_head (isDigit_of_mem_ofNat member)
    have newline : isApart label.text "\n" = true := by
      cases label <;> rfl
    have point : isApart label.text ". " = true := by
      cases label <;> rfl
    have below : isApart label.text (step ++ (stepLines (number + 1) steps ++ "\n")) = true := by
      obtain ⟨rest, equal⟩ := exists_stepLines_append (number + 1) steps
      rw [equal] at further ⊢
      exact Text.isApart_append_stop (here.unmarked label mark) label.newline_not_mem_text further
    rw [stepLines, List.append_assoc, List.append_assoc, List.append_assoc, List.append_assoc]
    exact isApart_append newline (isApart_append digits (isApart_append point below))

theorem isApart_heading {written : WrittenCase} (wellFormed : written.WellFormed) {label : Label}
    (notId : label ≠ .id) (notCategory : label ≠ .category) (notPriority : label ≠ .priority) :
    isApart label.text written.heading = true :=
  isApart_append
    (isApart_append (isApart_line notId (isApart_number wellFormed label))
      (isApart_line notCategory (isApart_category label written.category)))
    (isApart_line notPriority (isApart_priority label written.priority))

theorem isApart_upToSteps {written : WrittenCase} (wellFormed : written.WellFormed)
    {label : Label} (later : label ∈ [Label.steps, .expected, .evidence]) :
    isApart label.text written.upToSteps = true := by
  have mark : label ∈ Label.marks := List.mem_cons_of_mem _ later
  have different (other : Label) (earlier : other ∉ [Label.steps, .expected, .evidence]) :
      label ≠ other :=
    ne_of_mem_of_not_mem later earlier
  exact isApart_append
    (isApart_heading wellFormed (different .id (by decide)) (different .category (by decide))
      (different .priority (by decide)))
    (isApart_line (different .preconditions (by decide))
      (isApart_field mark wellFormed.preconditions))

theorem isApart_upToExpected {written : WrittenCase} (wellFormed : written.WellFormed)
    {label : Label} (later : label ∈ [Label.expected, .evidence]) :
    isApart label.text written.upToExpected = true := by
  have mark : label ∈ Label.marks := List.mem_cons_of_mem _ (List.mem_cons_of_mem _ later)
  have notSteps : label ≠ .steps := ne_of_mem_of_not_mem later (by decide)
  exact isApart_append (isApart_upToSteps wellFormed (List.mem_cons_of_mem _ later))
    (isApart_append (Label.isApart_text notSteps) (isApart_stepLines mark wellFormed.steps 1))

/-- The evidence has its label where it begins, and not before. -/
theorem isApart_upToEvidence {written : WrittenCase} (wellFormed : written.WellFormed) :
    isApart Label.evidence.text written.upToEvidence = true :=
  isApart_append (isApart_upToExpected wellFormed (by decide))
    (isApart_line (by decide) (isApart_field (by decide) wellFormed.expected))

/-- The text starts as a case does, and no other case starts in it. -/
def StartsCase (text : Text) : Prop :=
  ∃ tail, text = Label.id.head :: tail ∧ isApart Label.id.text tail = true

theorem StartsCase.append {front back : Text} (starts : StartsCase front)
    (apart : isApart Label.id.text back = true) : StartsCase (front ++ back) := by
  obtain ⟨tail, rfl, apartTail⟩ := starts
  exact ⟨tail ++ back, rfl, isApart_append apartTail apart⟩

theorem startsCase_number {written : WrittenCase} (wellFormed : written.WellFormed) :
    StartsCase (line .id ("TC-" ++ written.number)) := by
  have opening : isApart Label.id.text ("ストケースID:" : Text) = true := by
    rfl
  refine ⟨"ストケースID:" ++ (" " ++ ("TC-" ++ written.number ++ "\n")), ?_, ?_⟩
  · rw [line, Label.text_id, List.cons_append]
  · exact isApart_append opening
      (isApart_append Label.id.isApart_space (isApart_number wellFormed .id))

/-- A written case starts one, and no other starts in it. -/
theorem startsCase_text {written : WrittenCase} (wellFormed : written.WellFormed) :
    StartsCase written.text := by
  have mark : Label.id ∈ Label.marks := by decide
  have heading : StartsCase written.heading :=
    ((startsCase_number wellFormed).append
      (isApart_line (by decide) (isApart_category .id written.category))).append
        (isApart_line (by decide) (isApart_priority .id written.priority))
  have upToSteps : StartsCase written.upToSteps :=
    heading.append (isApart_line (by decide) (isApart_field mark wellFormed.preconditions))
  have upToExpected : StartsCase written.upToExpected :=
    upToSteps.append (isApart_append (Label.isApart_text (by decide))
      (isApart_stepLines mark wellFormed.steps 1))
  have upToEvidence : StartsCase written.upToEvidence :=
    upToExpected.append (isApart_line (by decide) (isApart_field mark wellFormed.expected))
  exact upToEvidence.append (isApart_line (by decide) (isApart_field mark wellFormed.evidence))

end WrittenCase

end BrowserPlan.Report
