/-
This file proves that a report that is written as it should be is accepted, and what is counted in
it.

The section of the cases also holds what stands in front of the next tag in its line. This text
goes to the last case. It can change nothing but what is read as its preconditions and its evidence,
and the check does not look at those.
-/

import BrowserPlan.Proofs.Report.Check
import BrowserPlan.Proofs.Report.Written

namespace BrowserPlan.Report

open Text (isApart isApart_append)

/-! ### What the check sees of a case -/

/-- A case without what the check does not look at. -/
def Case.core (case : Case) : Case :=
  { case with preconditions := [], evidence := [] }

theorem Case.isComplete_core {case : Case} : case.core.IsComplete ↔ case.IsComplete :=
  ⟨fun complete => ⟨complete.category, complete.priority, complete.steps, complete.expected⟩,
    fun complete => ⟨complete.category, complete.priority, complete.steps, complete.expected⟩⟩

namespace WrittenCase

/-- Whatever follows a case, the check sees what was meant. -/
theorem core_ofChunk?_trim {written : WrittenCase} (wellFormed : written.WellFormed)
    (full : written.IsFull) (behind : Text) :
    (Case.ofChunk? (Text.trim (written.text ++ behind))).map Case.core =
      some written.toCase.core := by
  have id (rest : Text) : Text.findFirst caseId? (written.upToEvidence ++ rest) =
      some ("TC-" ++ written.number) :=
    Text.findFirst_of_read (caseId?_upToEvidence wellFormed rest)
  have steps (rest : Text) :
      stepsOf (fieldUpTo stepsLabel expectedLabel (written.upToEvidence ++ rest)) =
        written.steps :=
    stepsOf_fieldUpTo wellFormed fun empty => absurd empty full.steps
  have expected (rest : Text) : fieldUpTo expectedLabel evidenceLabel
      (written.upToEvidence ++ (Label.evidence.text ++ rest)) = written.expected :=
    fieldUpTo_expected wellFormed fun empty => absurd empty full.expected
  have category (rest : Text) : choice categoryLabel Category.word Category.all
      (written.upToEvidence ++ rest) = some written.category :=
    choice_category wellFormed rest
  have priority (rest : Text) : choice priorityLabel Priority.word Priority.all
      (written.upToEvidence ++ rest) = some written.priority :=
    choice_priority wellFormed rest
  rw [trim_text_append wellFormed, Case.ofChunk?, id, Option.map_some, Option.map_some, Case.core,
    steps, expected, category, priority]
  rfl

theorem isComplete_toCase {written : WrittenCase} (full : written.IsFull) :
    written.toCase.IsComplete :=
  ⟨rfl, rfl, full.steps, full.expected⟩

end WrittenCase

/-! ### Cases with more text behind them -/

theorem findFirst_caseId?_of_prefix {front text : Text} (isFront : front <+: text)
    (noCase : Text.findFirst caseId? text = none) : Text.findFirst caseId? front = none := by
  obtain ⟨rest, rfl⟩ := isFront
  refine Text.findFirst_eq_none_iff.mpr fun part behind => ?_
  have longer : part ++ rest <:+ front ++ rest := by
    obtain ⟨passed, rfl⟩ := behind
    exact ⟨passed, (List.append_assoc _ _ _).symm⟩
  cases read : caseId? part with
  | none => rfl
  | some id => rw [← Text.findFirst_eq_none_iff.mp noCase _ longer, caseId?_append read rest]

theorem findFirst_caseId?_of_suffix {back text : Text} (isBack : back <:+ text)
    (noCase : Text.findFirst caseId? text = none) : Text.findFirst caseId? back = none :=
  Text.findFirst_eq_none_iff.mpr fun part behind =>
    Text.findFirst_eq_none_iff.mp noCase part (behind.trans isBack)

/-- More text behind the last case counts as text behind it. -/
theorem exists_printed_append {written : List (WrittenCase × Text)} (printable : Printable written)
    (notEmpty : written ≠ []) {rest : Text} (noCase : Text.findFirst caseId? rest = none) :
    ∃ longer, printed written ++ rest = printed longer ∧ Separable longer ∧
      longer.map Prod.fst = written.map Prod.fst := by
  induction written with
  | nil => exact absurd rfl notEmpty
  | cons entry written inductionHypothesis =>
    obtain ⟨⟨wellFormed, blank⟩, later⟩ := List.forall_mem_cons.mp printable
    cases written with
    | nil =>
      have noCaseBehind : Text.findFirst caseId? (entry.2 ++ rest) = none := by
        rw [← Text.findFirst_dropBlanks ignoresBlanks_caseId?, Text.dropBlanks_append blank,
          Text.findFirst_dropBlanks ignoresBlanks_caseId?, noCase]
      refine ⟨[(entry.1, entry.2 ++ rest)], ?_, ?_, rfl⟩
      · simp only [printed, List.flatMap_singleton, List.append_assoc]
      · exact List.forall_mem_singleton.mpr ⟨wellFormed, noCaseBehind⟩
    | cons next written =>
      obtain ⟨longer, equal, separable, same⟩ :=
        inductionHypothesis later (List.cons_ne_nil _ _)
      refine ⟨entry :: longer, ?_, ?_, congrArg (entry.1 :: ·) same⟩
      · rw [printed_cons, List.append_assoc, equal, ← printed_cons]
      · exact List.forall_mem_cons.mpr
          ⟨printable.separable entry List.mem_cons_self, separable⟩

/-- The cases that are read from a section are those that were written, as the check sees them,
with any text without cases in front of them and behind them. -/
theorem core_casesOf {written : List (WrittenCase × Text)} (printable : Printable written)
    (full : ∀ entry ∈ written, entry.1.IsFull) (notEmpty : written ≠ []) {front rest : Text}
    (noCaseFront : Text.findFirst caseId? front = none)
    (noCaseRest : Text.findFirst caseId? rest = none) :
    (casesOf (front ++ (printed written ++ rest))).map Case.core =
      written.map fun entry => entry.1.toCase.core := by
  obtain ⟨longer, equal, separable, same⟩ := exists_printed_append printable notEmpty noCaseRest
  have read : ∀ entry ∈ longer,
      (Case.ofChunk? (Text.trim (entry.1.text ++ entry.2))).map Case.core =
        some entry.1.toCase.core := by
    intro entry member
    have isWritten : entry.1 ∈ written.map Prod.fst := same ▸ List.mem_map_of_mem member
    obtain ⟨other, isOther, equal⟩ := List.mem_map.mp isWritten
    exact WrittenCase.core_ofChunk?_trim (separable entry member).1 (equal ▸ full other isOther) _
  calc
    (casesOf (front ++ (printed written ++ rest))).map Case.core =
        longer.map fun entry => entry.1.toCase.core := by
      rw [equal, casesOf, chunks, cutBefore_append_printed noCaseFront separable, List.map_cons,
        List.filterMap_cons_none (ofChunk?_trim_eq_none noCaseFront), List.map_filterMap,
        List.map_map, List.filterMap_map, Function.comp_def, Function.comp_def,
        List.filterMap_congr read, List.filterMap_eq_map']
    _ = (longer.map Prod.fst).map fun written => written.toCase.core := by rw [List.map_map]; rfl
    _ = written.map fun entry => entry.1.toCase.core := by rw [same, List.map_map]; rfl

/-! ### The sections of a written report -/

theorem IsHeading.exists_find? {tag heading : Text} (isHeading : IsHeading tag heading) :
    ∃ position, Text.find? tag heading = some position := by
  rw [← Option.ne_none_iff_exists']
  exact fun missing => Text.find?_eq_none_iff.mp missing isHeading.tagged

theorem IsImplementation.infix_trim {code : Text} (isImplementation : IsImplementation code)
    {snippet : Text} (required : snippet ∈ requiredSnippets) : snippet <:+: Text.trim code := by
  have solid : ∀ snippet ∈ requiredSnippets,
      snippet.any Text.isBlank = false ∧ snippet ≠ [] := by
    decide +kernel
  obtain ⟨noBlank, notEmpty⟩ := solid snippet required
  exact (Text.infix_trim_iff noBlank notEmpty code).mpr (isImplementation.snippets snippet required)

theorem IsImplementation.trim_ne_nil {code : Text} (isImplementation : IsImplementation code) :
    Text.trim code ≠ [] := by
  have required : ("@Test" : Text) ∈ requiredSnippets := by decide
  intro empty
  have held := isImplementation.infix_trim required
  rw [empty] at held
  exact absurd (List.infix_nil.mp held) (by decide)

theorem length_le_of_find? {part text : Text} {position : Nat}
    (found : Text.find? part text = some position) : position ≤ text.length := by
  obtain ⟨front, rest, rfl, rfl⟩ := Text.exists_of_find? found
  rw [List.length_append]
  exact Nat.le_add_right _ _

namespace WrittenReport

variable {report : WrittenReport} (wellFormed : report.WellFormed) {start offset : Nat}
  (startFound : Text.find? "(A)" report.casesHeading = some start)
  (offsetFound : Text.find? "(B)" report.codeHeading = some offset)

include startFound in
/-- The cases are found where their heading has its tag. -/
theorem find?_cases : Text.find? "(A)" report.text = some start := by
  rw [text, casesText, List.append_assoc]
  exact Text.find?_append startFound _

include wellFormed offsetFound in
theorem find?_code :
    Text.find? "(B)" report.text = some (offset + report.casesText.length) := by
  rw [text, Text.find?_append_of_isApart (isApart_casesText wellFormed (by decide) (by decide)),
    Text.find?_append offsetFound, Option.map_some]

include startFound offsetFound in
theorem between_cases :
    between report.text start (offset + report.casesText.length) =
      report.casesHeading.drop start ++
        (("\n" ++ printed report.cases) ++ report.codeHeading.take offset) := by
  rw [text, casesText, List.append_assoc]
  exact between_append (length_le_of_find? startFound) (length_le_of_find? offsetFound)

include wellFormed offsetFound in
/-- The section of the implementation reaches to its end or to the tag of the third one. -/
theorem exists_partFrom_code :
    ∃ behind, partFrom report.text (offset + report.casesText.length)
        (Text.find? "(C)" report.text) =
      report.codeHeading.drop offset ++ (blockText report.code ++ behind) := by
  have inHeading := length_le_of_find? offsetFound
  have stop : Text.find? "(C)" report.text = (Text.find? "(C)" report.lastText).map fun stop =>
      stop + (report.codeHeading ++ blockText report.code).length + report.casesText.length := by
    rw [text, Text.find?_append_of_isApart (isApart_casesText wellFormed (by decide) (by decide)),
      ← List.append_assoc, Text.find?_append_of_isApart (isApart_codeText wellFormed),
      Option.map_map]
    rfl
  rw [stop, text]
  cases last : report.last? with
  | none =>
    have nothing : report.lastText = [] := by
      rw [lastText, last]
    rw [nothing]
    refine ⟨[], ?_⟩
    show List.drop _ _ = _
    rw [Nat.add_comm, List.drop_length_add_append, List.drop_append_of_le_length inHeading]
  | some third =>
    obtain ⟨heading, below⟩ := third
    have lines : report.lastText = heading ++ ("\n" ++ below) := by
      rw [lastText, last]
    obtain ⟨position, found⟩ := (wellFormed.lastHeading _ last).exists_find?
    rw [lines, Text.find?_append found]
    refine ⟨heading.take position, ?_⟩
    show between _ _ _ = _
    rw [between_append_left]
    exact between_append inHeading (length_le_of_find? found)

include wellFormed in
/-- The first block behind the tag of the code is the code. -/
theorem firstBlock?_code (offset : Nat) (behind : Text) :
    firstBlock? (report.codeHeading.drop offset ++ (blockText report.code ++ behind)) =
      some (Text.trim report.code) := by
  have noBackquote : '`' ∉ report.codeHeading.drop offset ++ "\n" := by
    intro member
    obtain heading | newline := List.mem_append.mp member
    · exact wellFormed.codeHeading.noBackquote (List.mem_of_mem_drop heading)
    · exact absurd newline (by decide)
  have apartOpening : isApart opening (report.codeHeading.drop offset ++ "\n") = true :=
    Text.isApart_of_head_not_mem noBackquote _
  have apartFence : isApart fence ("\n" ++ (report.code ++ "\n")) = true :=
    isApart_append (by decide) (Text.isApart_concat wellFormed.code.noFence (by decide))
  have first : IsFirstBlock (report.codeHeading.drop offset ++ (blockText report.code ++ behind))
      (report.codeHeading.drop offset ++ "\n") ("\n" ++ (report.code ++ "\n"))
      ("\n" ++ behind) := by
    have parts : report.codeHeading.drop offset ++ (blockText report.code ++ behind) =
        (report.codeHeading.drop offset ++ "\n") ++
          (opening ++ (("\n" ++ (report.code ++ "\n")) ++ (fence ++ ("\n" ++ behind)))) := by
      simp only [blockText, List.append_assoc]
    refine ⟨parts, ?_, ?_⟩
    · rw [parts, Text.find?_append_of_isApart apartOpening, Text.find?_append_self,
        Option.map_some, Nat.zero_add]
    · rw [Text.find?_append_of_isApart apartFence, Text.find?_append_self, Option.map_some,
        Nat.zero_add]
  have newline : Text.isAllBlank "\n" = true := by decide
  rw [firstBlock?_of_isFirstBlock first]
  exact congrArg some ((Text.trim_cons_of_isBlank (by decide) _).trans
    (Text.trim_append_of_blank newline _))

/-! ### A written report is accepted -/

include wellFormed in
theorem ne_nil_cases : report.cases ≠ [] := by
  intro empty
  have enough := wellFormed.enough
  rw [empty] at enough
  exact absurd enough (by decide)

include wellFormed startFound offsetFound in
/-- The cases that are read are the written ones, apart from what the check does not look at. -/
theorem core_casesOf_sectionsAt :
    (casesOf (sectionsAt report.text start (offset + report.casesText.length)).cases).map
        Case.core = report.cases.map fun entry => entry.1.toCase.core := by
  have noCaseFront : Text.findFirst caseId? (report.casesHeading.drop start ++ "\n") = none := by
    rw [Text.findFirst_append_blanks ignoresBlanks_caseId? _ (by decide)]
    exact findFirst_caseId?_of_suffix (List.drop_suffix _ _) wellFormed.casesHeading.noCase
  have noCaseRest : Text.findFirst caseId? (report.codeHeading.take offset) = none :=
    findFirst_caseId?_of_prefix (List.take_prefix _ _) wellFormed.codeHeading.noCase
  have read := core_casesOf wellFormed.printable wellFormed.full (ne_nil_cases wellFormed)
    noCaseFront noCaseRest
  rw [sectionsAt, casesOf_trim, between_cases startFound offsetFound, ← read]
  simp only [List.append_assoc]

include startFound offsetFound in
/-- The section of the cases starts with its tag. -/
theorem trim_between_ne_nil :
    Text.trim (between report.text start (offset + report.casesText.length)) ≠ [] := by
  obtain ⟨front, rest, equal, rfl⟩ := Text.exists_of_find? startFound
  rw [between_cases startFound offsetFound, equal, List.drop_left, Ne, Text.trim_eq_nil_iff]
  intro blank
  exact absurd (List.all_eq_true.mp blank '(' List.mem_cons_self) (by decide)

include wellFormed startFound offsetFound in
/-- The cases and the code that are read meet the rules. -/
theorem meetsRules_sectionsAt :
    MeetsRules (fun count : Nat => count < leastTests)
      ((casesOf (sectionsAt report.text start (offset + report.casesText.length)).cases).map
        Case.entry) (Text.trim report.code) (Java.testCount (Text.trim report.code)) := by
  have core := core_casesOf_sectionsAt wellFormed startFound offsetFound
  have entries : (casesOf (sectionsAt report.text start
      (offset + report.casesText.length)).cases).map Case.entry =
        report.cases.map fun entry => entry.1.toCase.entry := by
    have seen := congrArg (List.map Case.entry) core
    rw [List.map_map, List.map_map] at seen
    exact seen
  have tests := wellFormed.code.tests
  refine ⟨?_, fun category => ?_, ?_, fun snippet required => ?_, ?_⟩
  · rw [entries, List.length_map]
    exact wellFormed.enough
  · rw [entries, countIn, List.countP_map]
    refine (wellFormed.categories category).trans_eq (List.countP_congr fun entry _ => ?_)
    simp [Case.entry, WrittenCase.toCase]
  · have distinct := wellFormed.distinct.map (List.append_right_injective "TC-".toList)
    rw [List.map_map] at distinct
    rw [entries, List.map_map]
    exact distinct
  · exact wellFormed.code.infix_trim required
  · rw [testCount_trim, leastTests]
    exact decide_eq_false (by omega)

include wellFormed startFound offsetFound in
theorem isAccepted_sectionsAt :
    IsAccepted (sectionsAt report.text start (offset + report.casesText.length))
      { code := Text.trim report.code, testCount := Java.testCount (Text.trim report.code) } where
  cases := trim_between_ne_nil startFound offsetFound
  code := wellFormed.code.trim_ne_nil
  complete := by
    intro case member
    have seen : case.core ∈ report.cases.map fun entry => entry.1.toCase.core :=
      core_casesOf_sectionsAt wellFormed startFound offsetFound ▸ List.mem_map_of_mem member
    obtain ⟨entry, isEntry, same⟩ := List.mem_map.mp seen
    rw [← Case.isComplete_core, ← same, Case.isComplete_core]
    exact WrittenCase.isComplete_toCase (wellFormed.full entry isEntry)
  rules := meetsRules_sectionsAt wellFormed startFound offsetFound

end WrittenReport

/-- What the check finds out about a report that is written as it should be. -/
theorem checkReport_text {report : WrittenReport} (wellFormed : report.WellFormed) :
    checkReport report.text =
      { errors := []
        caseCount := report.cases.length
        testCount := Java.testCount report.code } := by
  obtain ⟨start, startFound⟩ := wellFormed.casesHeading.exists_find?
  obtain ⟨offset, offsetFound⟩ := wellFormed.codeHeading.exists_find?
  obtain ⟨behind, part⟩ := WrittenReport.exists_partFrom_code wellFormed offsetFound
  have block := (firstBlock?_trim _).trans (WrittenReport.firstBlock?_code wellFormed offset behind)
  have divided : divide report.text =
      .ok (sectionsAt report.text start (offset + report.casesText.length),
        { code := Text.trim report.code
          testCount := Java.testCount (Text.trim report.code) }) := by
    refine divide_eq_ok_iff.mpr ⟨ofText_of_find? (WrittenReport.find?_cases startFound)
      (WrittenReport.find?_code wellFormed offsetFound), ofSection_eq_ok_iff.mpr ⟨?_, rfl⟩⟩
    rw [sectionsAt, part]
    exact block
  have count := congrArg List.length
    (WrittenReport.core_casesOf_sectionsAt wellFormed startFound offsetFound)
  rw [List.length_map, List.length_map] at count
  rw [checkReport_of_isAccepted divided
    (WrittenReport.isAccepted_sectionsAt wellFormed startFound offsetFound), count, testCount_trim]

/-- A report that is written as it should be is accepted, and its cases and tests are counted. -/
theorem written_report_accepted {report : WrittenReport} (wellFormed : report.WellFormed) :
    (checkReport report.text).valid = true ∧ (checkReport report.text).errors = [] ∧
      (checkReport report.text).caseCount = report.cases.length ∧
      (checkReport report.text).testCount = Java.testCount report.code := by
  rw [checkReport_text wellFormed]
  exact ⟨rfl, rfl, rfl, rfl⟩

/-- A report of fifteen cases and three tests. -/
theorem sampleReport_accepted :
    sampleReport.WellFormed ∧ (checkReport sampleReport.text).valid = true ∧
      (checkReport sampleReport.text).errors = [] ∧
      (checkReport sampleReport.text).caseCount = 15 ∧
      (checkReport sampleReport.text).testCount = 3 := by
  obtain ⟨valid, errors, cases, tests⟩ := written_report_accepted wellFormed_sampleReport
  exact ⟨wellFormed_sampleReport, valid, errors, cases, tests⟩

end BrowserPlan.Report
