/-
This file holds the form in which a report is written: a heading and the cases, a heading and the
implementation between fences, and, if there is one, a third section with its heading.

The tag of a section stands in its heading and nowhere in front of it. So each section is found at
its heading, whatever else the values of the cases, the implementation and the third section hold.
-/

import BrowserPlan.Proofs.Report.Chunk
import BrowserPlan.Proofs.Report.Fence
import BrowserPlan.Proofs.Report.Section

namespace BrowserPlan.Report

open Text (isApart isApart_append)

/-! ### Reports as they are written -/

/-- What is written of a report. Each case has the text behind it, and the third section its
heading and the text below. -/
structure WrittenReport where
  casesHeading : Text
  cases : List (WrittenCase × Text)
  codeHeading : Text
  code : Text
  last? : Option (Text × Text)
  deriving DecidableEq, Repr

namespace WrittenReport

/-- The heading of the cases and the cases. -/
def casesText (report : WrittenReport) : Text :=
  report.casesHeading ++ ("\n" ++ printed report.cases)

/-- The lines of a block, behind the line in front of it. -/
def blockText (code : Text) : Text :=
  "\n" ++ (opening ++ ("\n" ++ (code ++ ("\n" ++ (fence ++ "\n")))))

/-- The third section. -/
def lastText (report : WrittenReport) : Text :=
  match report.last? with
  | some (heading, below) => heading ++ ("\n" ++ below)
  | none => []

/-- The lines of a report. -/
def text (report : WrittenReport) : Text :=
  report.casesText ++ (report.codeHeading ++ (blockText report.code ++ report.lastText))

end WrittenReport

/-! ### Reports that are in order -/

/-- The signs of the sections. -/
def tags : List Text :=
  ["(A)", "(B)", "(C)"]

/-- A line that holds the tag of a section and neither another tag, a backquote nor a case. -/
structure IsHeading (tag heading : Text) : Prop where
  tagged : tag <:+: heading
  noOther : ∀ other ∈ tags, other ≠ tag → ¬ other <:+: heading
  noNewline : '\n' ∉ heading
  noBackquote : '`' ∉ heading
  noCase : Text.findFirst caseId? heading = none

/-- A case with steps and something expected, of which no value holds a tag. -/
structure WrittenCase.IsFull (written : WrittenCase) : Prop where
  steps : written.steps ≠ []
  expected : written.expected ≠ []
  untagged : ∀ value ∈ written.preconditions :: written.expected :: written.evidence ::
    written.steps, ∀ tag ∈ tags, ¬ tag <:+: value

/-- A text that can stand in a block and holds what is required of an implementation. -/
structure IsImplementation (code : Text) : Prop where
  noFence : ¬ fence <:+: code
  untagged : ¬ ("(C)" : Text) <:+: code
  snippets : ∀ snippet ∈ requiredSnippets, snippet <:+: code
  tests : 3 ≤ Java.testCount code

/-- A report that is written as it should be. -/
structure WrittenReport.WellFormed (report : WrittenReport) : Prop where
  casesHeading : IsHeading "(A)" report.casesHeading
  printable : Printable report.cases
  full : ∀ entry ∈ report.cases, entry.1.IsFull
  enough : 15 ≤ report.cases.length
  categories : ∀ category, 3 ≤ report.cases.countP fun entry => entry.1.category = category
  distinct : (report.cases.map fun entry => entry.1.number).Nodup
  codeHeading : IsHeading "(B)" report.codeHeading
  code : IsImplementation report.code
  lastHeading : ∀ last ∈ report.last?, IsHeading "(C)" last.1

/-- A case of the category that its number stands for, with half a tag and part of a label. -/
def sampleCase (number : Nat) : WrittenCase where
  number := "0" ++ Text.ofNat number
  category := Category.all[number % 4]?.getD .normal
  priority := .middle
  preconditions := ""
  steps := ["open the page", "log in"]
  expected := "実装 (B"
  evidence := ""

/-- A report with text in front of its tags, blank lines, tags in its code and a third section that
holds a tag and the number of a case. -/
def sampleReport : WrittenReport where
  casesHeading := "## (A) テスト手順:"
  cases := (List.range 15).map fun position => (sampleCase (10 + position), "\n")
  codeHeading := "実装根拠: (B)"
  code := "import org.junit.jupiter.api.Test;\n// (A) (B) WebDriver, WebDriverWait\n" ++
    "@BeforeEach @AfterEach @Test @Test @Test "
  last? := some ("(C) 補足", "(B) テストケースID: TC-001\n```java")

theorem wellFormed_sampleReport : sampleReport.WellFormed where
  casesHeading := ⟨by decide, by decide, by decide, by decide, by decide +kernel⟩
  printable := by
    have wellFormed : ∀ position ∈ List.range 15, (sampleCase (10 + position)).WellFormed := by
      decide +kernel
    have newline : Text.isAllBlank "\n" = true := by decide
    exact List.forall_mem_map.mpr fun position member => ⟨wellFormed position member, newline⟩
  full := by
    have untagged : ∀ value ∈ (["", "実装 (B", "", "open the page", "log in"] : List Text),
        ∀ tag ∈ tags, ¬ tag <:+: value := by
      decide
    exact List.forall_mem_map.mpr fun position _ =>
      ⟨List.cons_ne_nil _ _, List.cons_ne_nil _ _, untagged⟩
  enough := by decide
  categories := by
    intro category
    cases category <;> decide +kernel
  distinct := by decide +kernel
  codeHeading := ⟨by decide, by decide, by decide, by decide, by decide +kernel⟩
  code := ⟨by decide +kernel, by decide +kernel, by decide +kernel, by decide +kernel⟩
  lastHeading := by
    intro last isLast
    obtain rfl := Option.some.inj isLast
    exact ⟨by decide, by decide, by decide, by decide, by decide +kernel⟩

/-! ### No tag starts but in a heading -/

section Tag

variable {tag : Text} (isTag : tag ∈ tags)

include isTag

theorem exists_tag_eq_cons : ∃ rest, tag = '(' :: rest ∧ '\n' ∉ tag := by
  simp only [tags, List.mem_cons, List.not_mem_nil, or_false] at isTag
  obtain rfl | rfl | rfl := isTag <;> exact ⟨_, rfl, by decide⟩

theorem isApart_tag_of_not_mem {text : Text} (missing : '(' ∉ text) : isApart tag text = true := by
  obtain ⟨rest, rfl, _⟩ := exists_tag_eq_cons isTag
  exact Text.isApart_of_head_not_mem missing rest

theorem isApart_tag_line {label : Label} {value : Text} (untagged : ¬ tag <:+: value) :
    isApart tag (WrittenCase.line label value) = true := by
  obtain ⟨_, _, noNewline⟩ := exists_tag_eq_cons isTag
  have notLabel : '(' ∉ label.text := by
    cases label <;> decide
  exact isApart_append (isApart_tag_of_not_mem isTag notLabel)
    (isApart_append (isApart_tag_of_not_mem isTag (by decide))
      (Text.isApart_concat untagged noNewline))

theorem not_infix_of_not_mem {value : Text} (missing : '(' ∉ value) : ¬ tag <:+: value := by
  obtain ⟨rest, rfl, _⟩ := exists_tag_eq_cons isTag
  exact fun held => missing (held.subset List.mem_cons_self)

theorem isApart_tag_stepLines {steps : List Text} (untagged : ∀ step ∈ steps, ¬ tag <:+: step)
    (number : Nat) : isApart tag (WrittenCase.stepLines number steps ++ "\n") = true := by
  obtain ⟨_, _, noNewline⟩ := exists_tag_eq_cons isTag
  induction steps generalizing number with
  | nil =>
    have newline : '(' ∉ "\n".toList := by decide
    exact isApart_tag_of_not_mem isTag newline
  | cons step steps inductionHypothesis =>
    obtain ⟨here, later⟩ := List.forall_mem_cons.mp untagged
    have further := inductionHypothesis later (number + 1)
    have digits : '(' ∉ Text.ofNat number := fun member =>
      absurd (isDigit_of_mem_ofNat member) (by decide)
    have below : isApart tag
        (step ++ (WrittenCase.stepLines (number + 1) steps ++ "\n")) = true := by
      obtain ⟨rest, equal⟩ := WrittenCase.exists_stepLines_append (number + 1) steps
      rw [equal] at further ⊢
      exact Text.isApart_append_stop here noNewline further
    rw [WrittenCase.stepLines, List.append_assoc, List.append_assoc, List.append_assoc,
      List.append_assoc]
    exact isApart_append (isApart_tag_of_not_mem isTag (by decide))
      (isApart_append (isApart_tag_of_not_mem isTag digits)
        (isApart_append (isApart_tag_of_not_mem isTag (by decide)) below))

/-- No tag of a section is in a written case. -/
theorem isApart_tag_text {written : WrittenCase} (wellFormed : written.WellFormed)
    (full : written.IsFull) : isApart tag written.text = true := by
  have untagged (value : Text) (member : value ∈ written.preconditions :: written.expected ::
      written.evidence :: written.steps) : ¬ tag <:+: value :=
    full.untagged value member tag isTag
  have number : '(' ∉ "TC-".toList ++ written.number := by
    intro member
    obtain constant | digit := List.mem_append.mp member
    · exact absurd constant (by decide)
    · exact absurd (wellFormed.isDigit_number _ digit) (by decide)
  have category : '(' ∉ "[".toList ++ (written.category.word ++ "]") := by
    cases written.category <;> decide
  have priority : '(' ∉ "[".toList ++ (written.priority.word ++ "]") := by
    cases written.priority <;> decide
  have heading : isApart tag written.heading = true :=
    isApart_append
      (isApart_append (isApart_tag_line isTag (not_infix_of_not_mem isTag number))
        (isApart_tag_line isTag (not_infix_of_not_mem isTag category)))
      (isApart_tag_line isTag (not_infix_of_not_mem isTag priority))
  have steps : isApart tag
      (Label.steps.text ++ (WrittenCase.stepLines 1 written.steps ++ "\n")) = true :=
    isApart_append (isApart_tag_of_not_mem isTag (by decide))
      (isApart_tag_stepLines isTag (fun step member => untagged step (by simp [member])) 1)
  exact isApart_append (isApart_append (isApart_append
    (isApart_append heading (isApart_tag_line isTag (untagged _ (by simp)))) steps)
    (isApart_tag_line isTag (untagged _ (by simp)))) (isApart_tag_line isTag (untagged _ (by simp)))

/-- No tag of a section is among the printed cases. -/
theorem isApart_tag_printed {written : List (WrittenCase × Text)} (printable : Printable written)
    (full : ∀ entry ∈ written, entry.1.IsFull) : isApart tag (printed written) = true := by
  induction written with
  | nil => rfl
  | cons entry written inductionHypothesis =>
    obtain ⟨⟨wellFormed, blank⟩, printableLater⟩ := List.forall_mem_cons.mp printable
    obtain ⟨fullHere, fullLater⟩ := List.forall_mem_cons.mp full
    have gap : '(' ∉ entry.2 := fun member =>
      absurd (List.all_eq_true.mp blank _ member) (by decide)
    exact isApart_append
      (isApart_append (isApart_tag_text isTag wellFormed fullHere)
        (isApart_tag_of_not_mem isTag gap))
      (inductionHypothesis printableLater fullLater)

end Tag

namespace WrittenReport

variable {report : WrittenReport} (wellFormed : report.WellFormed)

include wellFormed

/-- No tag but that of the cases stands in front of the second heading. -/
theorem isApart_casesText {tag : Text} (isTag : tag ∈ tags) (other : tag ≠ "(A)") :
    isApart tag report.casesText = true := by
  obtain ⟨_, _, noNewline⟩ := exists_tag_eq_cons isTag
  have heading : isApart tag (report.casesHeading ++ "\n") = true :=
    Text.isApart_concat (wellFormed.casesHeading.noOther tag isTag other) noNewline
  have parts : report.casesText = (report.casesHeading ++ "\n") ++ printed report.cases := by
    rw [casesText, List.append_assoc]
  rw [parts]
  exact isApart_append heading (isApart_tag_printed isTag wellFormed.printable wellFormed.full)

/-- The tag of the third section does not stand in front of its heading. -/
theorem isApart_codeText :
    isApart "(C)" (report.codeHeading ++ blockText report.code) = true := by
  have heading : isApart ("(C)" : Text) (report.codeHeading ++ "\n") = true :=
    Text.isApart_concat (wellFormed.codeHeading.noOther _ (by decide) (by decide)) (by decide)
  have code : isApart ("(C)" : Text) (report.code ++ "\n") = true :=
    Text.isApart_concat wellFormed.code.untagged (by decide)
  have parts : report.codeHeading ++ blockText report.code = (report.codeHeading ++ "\n") ++
      ((opening ++ "\n") ++ ((report.code ++ "\n") ++ (fence ++ "\n"))) := by
    simp only [blockText, List.append_assoc]
  rw [parts]
  exact isApart_append heading (isApart_append (by decide) (isApart_append code (by decide)))

end WrittenReport

end BrowserPlan.Report
