/-
This file proves when a check finds nothing wrong with a report: the report divides, the parts that
are required are there and not empty, and what is counted in them meets the rules.
-/

import BrowserPlan.Proofs.Report.Tally
import BrowserPlan.Report.Check
import Mathlib.Data.List.Nodup

namespace BrowserPlan.Report

open Java (complain)

/-! ### Complaints -/

theorem complain_eq_nil_iff {Complaint : Type} {condition : Bool} {complaint : Complaint} :
    complain condition complaint = [] ↔ condition = false := by
  cases condition <;> simp [complain]

/-! ### The rules that count -/

/-- Nothing is repeated just if all keys are different and new. -/
theorem repeated_eq_nil_iff {Id Key : Type} [DecidableEq Key] {key : Id → Key} {seen : List Key}
    {ids : List Id} : repeated key seen ids = [] ↔
      (ids.map key).Nodup ∧ ∀ id ∈ ids, key id ∉ seen := by
  induction ids generalizing seen with
  | nil => simp [repeated]
  | cons id ids inductionHypothesis =>
    rw [repeated]
    split_ifs with isSeen
    · simp [isSeen]
    · rw [inductionHypothesis]
      simp only [List.map_cons, List.nodup_cons, List.mem_map, List.mem_cons, not_exists, not_and,
        not_or, forall_eq_or_imp]
      grind

theorem mem_all (category : Category) : category ∈ Category.all := by
  cases category <;> decide

/-- No rule is broken exactly if there is enough of all that is counted, no number occurs twice and
nothing is missing in the code. -/
theorem ruleErrors_eq_nil_iff {Id Key Count : Type} [DecidableEq Key] {key : Id → Key}
    {isFew : Count → Bool} {entries : List (CaseEntry Id)} {code : Text} {testCount : Count} :
    ruleErrors key isFew entries code testCount = [] ↔
      leastCases ≤ entries.length ∧ (∀ category, leastPerCategory ≤ countIn category entries) ∧
        ((entries.map CaseEntry.id).map key).Nodup ∧
        (∀ snippet ∈ requiredSnippets, snippet <:+: code) ∧ isFew testCount = false := by
  have snippets : (requiredSnippets.filter fun snippet => !Text.holds snippet code) = [] ↔
      ∀ snippet ∈ requiredSnippets, snippet <:+: code := by
    simp only [List.filter_eq_nil_iff, Bool.not_eq_true, Bool.not_eq_false', Text.holds_iff]
  simp only [ruleErrors, tallyOf_eq, List.flatMap_map, List.append_eq_nil_iff,
    List.flatMap_eq_nil_iff, List.map_eq_nil_iff, complain_eq_nil_iff, repeated_eq_nil_iff,
    decide_eq_false_iff_not, Nat.not_lt, Bool.not_eq_false', List.isEmpty_iff, snippets,
    List.not_mem_nil, not_false_eq_true, implies_true, and_true, mem_all, true_implies, and_assoc]

/-- What the rules ask of a report. -/
structure MeetsRules {Id Count : Type} (isFew : Count → Bool) (entries : List (CaseEntry Id))
    (code : Text) (testCount : Count) : Prop where
  cases : leastCases ≤ entries.length
  categories : ∀ category, leastPerCategory ≤ countIn category entries
  distinct : (entries.map CaseEntry.id).Nodup
  snippets : ∀ snippet ∈ requiredSnippets, snippet <:+: code
  tests : isFew testCount = false

/-- There are no errors just if the rules are met. -/
theorem meetsRules_iff {Id Count : Type} [DecidableEq Id] {isFew : Count → Bool}
    {entries : List (CaseEntry Id)} {code : Text} {testCount : Count} :
    ruleErrors id isFew entries code testCount = [] ↔ MeetsRules isFew entries code testCount := by
  rw [ruleErrors_eq_nil_iff, List.map_id]
  exact ⟨fun ⟨cases, categories, distinct, snippets, tests⟩ =>
      ⟨cases, categories, distinct, snippets, tests⟩,
    fun meets => ⟨meets.cases, meets.categories, meets.distinct, meets.snippets, meets.tests⟩⟩

/-! ### Parts that must be there -/

/-- What the parts of a case must be. -/
structure Case.IsComplete (case : Case) : Prop where
  category : case.category?.isSome
  priority : case.priority?.isSome
  steps : case.steps ≠ []
  expected : case.expected ≠ []

theorem Case.faults_eq_nil_iff {case : Case} {position : Nat} :
    case.faults position = [] ↔ case.IsComplete := by
  simp only [Case.faults, List.append_eq_nil_iff, complain_eq_nil_iff, Option.isNone_eq_false_iff,
    List.isEmpty_eq_false_iff]
  exact ⟨fun ⟨⟨⟨category, priority⟩, steps⟩, expected⟩ => ⟨category, priority, steps, expected⟩,
    fun complete => ⟨⟨⟨complete.category, complete.priority⟩, complete.steps⟩,
      complete.expected⟩⟩

theorem partFaults_eq_nil_iff {sections : Sections} {implementation : Implementation}
    {cases : List Case} : partFaults sections implementation cases = [] ↔
      sections.cases ≠ [] ∧ implementation.code ≠ [] ∧ ∀ case ∈ cases, case.IsComplete := by
  have inOrder {Fault : Type} (faults : List Fault) (isBefore : Fault → Fault → Bool) :
      faults.mergeSort isBefore = [] ↔ faults = [] := by
    rw [← List.length_eq_zero_iff, List.length_mergeSort, List.length_eq_zero_iff]
  simp only [partFaults, inOrder, List.append_eq_nil_iff, complain_eq_nil_iff,
    List.isEmpty_eq_false_iff, List.flatMap_eq_nil_iff, Case.faults_eq_nil_iff, and_assoc]
  have positions : (∀ entry ∈ cases.zipIdx, entry.1.IsComplete) ↔
      ∀ case ∈ cases, case.IsComplete := by
    rw [← List.forall_mem_map, List.zipIdx_map_fst]
  rw [positions]

/-! ### The check -/

/-- Nothing is wrong with the sections of a report and its implementation. -/
structure IsAccepted (sections : Sections) (implementation : Implementation) : Prop where
  cases : sections.cases ≠ []
  code : implementation.code ≠ []
  complete : ∀ case ∈ casesOf sections.cases, case.IsComplete
  rules : MeetsRules (fun count : Nat => count < leastTests)
    ((casesOf sections.cases).map Case.entry) implementation.code implementation.testCount

theorem checkReport_of_isAccepted {text : Text} {sections : Sections}
    {implementation : Implementation} (divided : divide text = .ok (sections, implementation))
    (accepted : IsAccepted sections implementation) :
    checkReport text =
      { errors := []
        caseCount := (casesOf sections.cases).length
        testCount := implementation.testCount } := by
  have parts := partFaults_eq_nil_iff.mpr ⟨accepted.cases, accepted.code, accepted.complete⟩
  rw [checkReport, divided]
  simp only [parts, List.isEmpty_nil, if_true, meetsRules_iff.mpr accepted.rules,
    List.map_nil]

/-- A valid report has two sections that are accepted. -/
theorem exists_of_valid {text : Text} (valid : (checkReport text).valid = true) :
    ∃ sections implementation, divide text = .ok (sections, implementation) ∧
      IsAccepted sections implementation := by
  rw [ReportCheck.valid, List.isEmpty_iff, checkReport] at valid
  cases divided : divide text with
  | error fault =>
    rw [divided] at valid
    cases valid
  | ok parts =>
    obtain ⟨sections, implementation⟩ := parts
    rw [divided] at valid
    dsimp only at valid
    split_ifs at valid with noFault
    · obtain ⟨cases, code, complete⟩ := partFaults_eq_nil_iff.mp (List.isEmpty_iff.mp noFault)
      exact ⟨sections, implementation, rfl, cases, code, complete,
        meetsRules_iff.mp (List.map_eq_nil_iff.mp valid)⟩
    · exact absurd (List.isEmpty_iff.mpr (List.map_eq_nil_iff.mp valid)) noFault

end BrowserPlan.Report
