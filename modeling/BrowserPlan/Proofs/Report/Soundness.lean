/-
This file proves that a report that the check accepts is in order, in terms of its text alone.

Sections are cut out by position, so that one whose heading comes too late is empty and not
missing. A report is rejected all the same, as neither the cases nor the code of an empty section
can meet the rules.
-/

import BrowserPlan.Proofs.Report.Acceptance

namespace BrowserPlan.Report

/-! ### What a report must hold -/

/-- The section of the cases holds enough of them, with numbers of their own, and enough chunks
that carry each category. -/
structure HoldsCases (part : Text) (count : Nat) : Prop where
  count : count = (numbersIn part).length
  enough : 15 ≤ (numbersIn part).length
  distinct : (numbersIn part).Nodup
  categories : ∃ front chunks, IsCut part front chunks ∧
    ∀ category, 3 ≤ chunks.countP fun chunk => carried? chunk = some category

/-- The section of the implementation has a block, and the first one holds what is required. -/
structure HoldsCode (part : Text) : Prop where
  block : ∃ front inside rest, IsFirstBlock part front inside rest ∧
    (∀ snippet ∈ requiredSnippets, snippet <:+: inside) ∧ 3 ≤ Java.testCount inside

/-! ### What an accepted report holds -/

/-- The first section of an accepted report holds the cases. -/
theorem holdsCases_of_isAccepted {part : Text} {sections : Sections}
    {implementation : Implementation} (accepted : IsAccepted sections implementation)
    (trimmed : sections.cases = Text.trim part) :
    HoldsCases part (casesOf sections.cases).length := by
  obtain ⟨front, chunks, cut⟩ := Text.exists_cutBefore (fun text => (caseId? text).isSome) part
  have isCut := isCut_cutBefore cut
  have entries : (casesOf sections.cases).map Case.entry = chunks.filterMap entryOf? := by
    rw [trimmed, casesOf_trim, entries_casesOf cut]
  have ids : ((casesOf sections.cases).map Case.entry).map CaseEntry.id = numbersIn part := by
    rw [entries, map_id_entries isCut]
  have count : (casesOf sections.cases).length = (numbersIn part).length := by
    rw [← ids, List.length_map, List.length_map]
  obtain ⟨cases, categories, distinct, _, _⟩ := accepted.rules
  rw [List.length_map, count] at cases
  rw [ids] at distinct
  refine ⟨count, cases, distinct, front, chunks, isCut, fun category => ?_⟩
  rw [← countIn_entries isCut, ← entries]
  exact categories category

/-- The second section of an accepted report holds the code. -/
theorem holdsCode_of_isAccepted {part : Text} {sections : Sections}
    {implementation : Implementation} (accepted : IsAccepted sections implementation)
    (trimmed : sections.implementation = Text.trim part)
    (first : Implementation.ofSection sections.implementation = .ok implementation) :
    HoldsCode part := by
  obtain ⟨found, count⟩ := ofSection_eq_ok_iff.mp first
  rw [trimmed, firstBlock?_trim] at found
  obtain ⟨front, inside, rest, equal, isFirst⟩ := exists_isFirstBlock found
  obtain ⟨_, _, _, snippets, tests⟩ := accepted.rules
  refine ⟨front, inside, rest, isFirst, fun snippet required => ?_, ?_⟩
  · have held := snippets snippet required
    rw [equal] at held
    exact held.trans (Text.trim_isInfix inside)
  · rw [count, equal, testCount_trim] at tests
    have notFew := of_decide_eq_false tests
    rw [leastTests] at notFew
    omega

/-- An accepted report has its sections in order, and each of them holds what is required. -/
theorem valid_report_holds {text : Text} (valid : (checkReport text).valid = true) :
    ∃ start middle, Text.find? "(A)" text = some start ∧ Text.find? "(B)" text = some middle ∧
      start < middle ∧ (∀ stop, Text.find? "(C)" text = some stop → middle < stop) ∧
      HoldsCases (between text start middle) (checkReport text).caseCount ∧
      HoldsCode (partFrom text middle (Text.find? "(C)" text)) := by
  obtain ⟨sections, implementation, divided, accepted⟩ := exists_of_valid valid
  obtain ⟨isText, first⟩ := divide_eq_ok_iff.mp divided
  obtain ⟨start, middle, startFound, middleFound, rfl⟩ := exists_of_ofText isText
  refine ⟨start, middle, startFound, middleFound, ?_, ?_, ?_,
    holdsCode_of_isAccepted accepted rfl first⟩
  · refine Nat.lt_of_not_le fun late => accepted.cases ?_
    rw [sectionsAt, between_eq_nil late]
    rfl
  · intro stop stopFound
    refine Nat.lt_of_not_le fun late => ?_
    rw [sectionsAt, stopFound, partFrom, between_eq_nil late] at first
    cases first
  · rw [checkReport_of_isAccepted divided accepted]
    exact holdsCases_of_isAccepted accepted rfl

/-- In the sample, the section of the cases ends and that of the implementation starts within a
line, and the third section holds another opening fence. -/
theorem sampleReport_holds :
    (checkReport sampleReport.text).valid = true ∧
      ∃ start middle, Text.find? "(A)" sampleReport.text = some start ∧
        Text.find? "(B)" sampleReport.text = some middle ∧ start < middle ∧
        (∀ stop, Text.find? "(C)" sampleReport.text = some stop → middle < stop) ∧
        HoldsCases (between sampleReport.text start middle)
          (checkReport sampleReport.text).caseCount ∧
        HoldsCode (partFrom sampleReport.text middle (Text.find? "(C)" sampleReport.text)) := by
  have valid : (checkReport sampleReport.text).valid = true := by
    rw [checkReport_text wellFormed_sampleReport]
    rfl
  exact ⟨valid, valid_report_holds valid⟩

end BrowserPlan.Report
