/-
This file proves that the cases that are read from a report are those that were written into it.

A report is cut where a case starts, which is nowhere but at the front of what was written of a
case. Each field is then found behind its own label, because no label starts in what stands before
it, and it ends at the next one for the same reason.
-/

import BrowserPlan.Proofs.Report.Template
import BrowserPlan.Proofs.Text.Trimmed

namespace BrowserPlan.Report

open Text (isApart Misses)

/-! ### Fields behind their labels -/

section Fields

variable {label next : Label} {front : Text}

/-- A field is read behind the first of its labels, whatever stands before it without one. -/
theorem field_of_isApart (apart : isApart label.text front = true) {read : Text → Option Text}
    {rest value : Text} (found : Text.afterBlanks read rest = some value) :
    field label.text read (front ++ (label.text ++ rest)) = Text.trim value := by
  have here : Text.after? label.text (label.text ++ rest) = some rest :=
    Text.after?_eq_some_iff.mpr rfl
  have misses : Misses (fun text => (Text.after? label.text text).bind (Text.afterBlanks read))
      front (label.text ++ rest) :=
    Text.misses_of_isApart (fun text other => by rw [Text.after?_eq_none other]; rfl) apart _
  rw [field, Text.findFirst_append misses, Text.findFirst_of_read]
  · rfl
  · rw [here, Option.bind_some, found]

/-- A field that goes on to the next label is read up to there. -/
theorem fieldUpTo_of_isApart (apart : isApart label.text front = true) {content more : Text}
    (notHeld : ¬ next.text <:+: content)
    (notLater : Text.isAllBlank content = true → ¬ next.text <:+: more) :
    fieldUpTo label.text next.text
      (front ++ (label.text ++ (content ++ ("\n" ++ (next.text ++ more))))) =
        Text.trim content := by
  obtain ⟨passed, read, same⟩ := Text.afterBlanks_upTo next.head?_text next.isBlank_head
    next.newline_not_mem_text notHeld notLater
  rw [← same]
  exact field_of_isApart apart read

theorem lastField_of_isApart (apart : isApart label.text front = true) (content : Text) :
    lastField label.text (front ++ (label.text ++ content)) = Text.trim content := by
  rw [lastField, field_of_isApart apart (Text.afterBlanks_some content), Text.trim_dropBlanks]

theorem choice_of_isApart (apart : isApart label.text front = true) {Choice : Type}
    {word : Choice → Text} {choices : List Choice} {chosen : Choice} {rest : Text}
    (found : choices.find? (fun choice => Text.opensWith (word choice ++ "]")
      (word chosen ++ ("]" ++ rest))) = some chosen) :
    choice label.text word choices
      (front ++ (label.text ++ (" " ++ ("[" ++ (word chosen ++ ("]" ++ rest)))))) =
        some chosen := by
  have here : Text.after? label.text
      (label.text ++ (" " ++ ("[" ++ (word chosen ++ ("]" ++ rest))))) =
        some (" " ++ ("[" ++ (word chosen ++ ("]" ++ rest)))) :=
    Text.after?_eq_some_iff.mpr rfl
  have misses (read : Text → Option Choice) :
      Misses (fun text => Text.after? label.text text >>= read) front
        (label.text ++ (" " ++ ("[" ++ (word chosen ++ ("]" ++ rest))))) :=
    Text.misses_of_isApart (fun text other => by rw [Text.after?_eq_none other]; rfl) apart _
  rw [choice, Text.findFirst_append (misses _), Text.findFirst_of_read]
  rw [here]
  exact found

end Fields

/-! ### The number of a case -/

/-- The label of a case with its number: the letters and the digits, behind blanks. -/
def caseMark (blanks digits : Text) : Text :=
  Label.id.text ++ (blanks ++ ("TC-" ++ digits))

/-- Blanks and digits that make the number of a case. -/
structure IsNumber (blanks digits : Text) : Prop where
  blank : Text.isAllBlank blanks = true
  length : digits.length = 3
  digit : ∀ digit ∈ digits, Text.isDigit digit = true

/-- The mark of a case is read back as its number. -/
theorem caseId?_caseMark {blanks digits : Text} (isNumber : IsNumber blanks digits)
    (rest : Text) : caseId? (caseMark blanks digits ++ rest) = some ("TC-" ++ digits) := by
  have label : Text.after? idLabel (caseMark blanks digits ++ rest) =
      some (blanks ++ ("TC-" ++ (digits ++ rest))) := by
    refine Text.after?_eq_some_iff.mpr ?_
    rw [caseMark, List.append_assoc, List.append_assoc, List.append_assoc]
    rfl
  have letters : Text.after? "TC-" (Text.dropBlanks (blanks ++ ("TC-" ++ (digits ++ rest)))) =
      some (digits ++ rest) := by
    rw [Text.dropBlanks_append isNumber.blank]
    rfl
  have three : (digits ++ rest).take 3 = digits := List.take_left' isNumber.length
  have valid : (digits.length = 3 && digits.all Text.isDigit) = true := by
    simpa [isNumber.length] using isNumber.digit
  rw [caseId?, label, Option.bind_eq_bind, Option.bind_some, letters, Option.bind_some]
  dsimp only
  rw [three, if_pos valid]

theorem exists_caseMark {text id : Text} (read : caseId? text = some id) :
    ∃ blanks digits rest, IsNumber blanks digits ∧ text = caseMark blanks digits ++ rest := by
  obtain ⟨behind, label, read⟩ := Option.bind_eq_some_iff.mp read
  obtain ⟨numbered, letters, read⟩ := Option.bind_eq_some_iff.mp read
  rw [Text.after?_eq_some_iff] at label letters
  dsimp only at read
  split_ifs at read with valid
  rw [Bool.and_eq_true, decide_eq_true_eq, List.all_eq_true] at valid
  refine ⟨behind.takeWhile Text.isBlank, numbered.take 3, numbered.drop 3,
    ⟨List.all_eq_true.mpr fun char member => List.mem_takeWhile_imp member, valid.1, valid.2⟩, ?_⟩
  have parts : behind = behind.takeWhile Text.isBlank ++ Text.dropBlanks behind :=
    List.takeWhile_append_dropWhile.symm
  rw [label, caseMark, List.append_assoc, List.append_assoc, List.append_assoc,
    List.take_append_drop, ← letters, ← parts]
  rfl

/-- What follows the number of a case does not change it. -/
theorem caseId?_append {front id : Text} (read : caseId? front = some id) (rest : Text) :
    caseId? (front ++ rest) = some id := by
  obtain ⟨blanks, digits, more, isNumber, rfl⟩ := exists_caseMark read
  rw [caseId?_caseMark isNumber] at read
  rw [List.append_assoc, caseId?_caseMark isNumber, read]

/-- Blanks do not make a number of a case, as no digit is a blank. -/
theorem ignoresBlanks_caseId? : Text.IgnoresBlanks caseId? := by
  refine Text.ignoresBlanks_after? (by decide) (by decide)
    (Text.ignoresBack_after?_dropBlanks (by decide) (by decide) ?_)
  intro numbered blanks blank
  cases blanks with
  | nil => rw [List.append_nil]
  | cons char blanks =>
    rw [Text.isAllBlank, List.all_cons, Bool.and_eq_true] at blank
    have notDigit : Text.isDigit char = false := Bool.eq_false_iff.mpr fun digit =>
      Bool.eq_false_iff.mp (Text.isBlank_of_isDigit digit) blank.1
    rcases numbered with _ | ⟨_, _ | ⟨_, _ | ⟨_, _⟩⟩⟩
    · simp [notDigit]
    · simp [notDigit]
    · simp [notDigit]
    · rfl

/-- The start of another case does not complete the number of a case. -/
theorem caseId?_append_head {front : Text} (notEmpty : front ≠ []) (missing : caseId? front = none)
    (rest : Text) : caseId? (front ++ Label.id.head :: rest) = none := by
  cases read : caseId? (front ++ Label.id.head :: rest) with
  | none => rfl
  | some id =>
    obtain ⟨blanks, digits, more, isNumber, equal⟩ := exists_caseMark read
    obtain ⟨char, front, rfl⟩ := List.exists_cons_of_ne_nil notEmpty
    rw [caseMark, Label.text_id, List.cons_append, List.cons_append, List.cons_append] at equal
    obtain ⟨rfl, further⟩ := List.cons.inj equal
    have noHead : Label.id.head ∉ "ストケースID:".toList ++ (blanks ++ ("TC-" ++ digits)) := by
      intro member
      obtain label | blank | letters | digit := (List.mem_append.mp member).imp_right fun member =>
        (List.mem_append.mp member).imp_right List.mem_append.mp
      · exact absurd label (by decide)
      · exact Bool.eq_false_iff.mp Label.id.isBlank_head
          (List.all_eq_true.mp isNumber.blank _ blank)
      · exact absurd letters (by decide)
      · exact Bool.eq_false_iff.mp Label.id.isDigit_head (isNumber.digit _ digit)
    obtain ⟨left, rfl⟩ := Text.prefix_of_prefix_append_cons noHead ⟨more, further.symm⟩
    have whole := caseId?_caseMark isNumber left
    rw [caseMark, Label.text_id, List.cons_append, List.cons_append, missing] at whole
    cases whole

/-! ### The steps -/

open WrittenCase (stepLines)

theorem stepMark?_stepLines (number : Nat) {step : Text} (isStep : IsStep step) (rest : Text) :
    stepMark? ("\n" ++ (Text.ofNat number ++ (". " ++ (step ++ rest)))) = some (step ++ rest) := by
  have digits : (Text.ofNat number ++ (". " ++ (step ++ rest))).takeWhile Text.isDigit =
      Text.ofNat number := by
    rw [List.takeWhile_append_of_pos fun _ => isDigit_of_mem_ofNat]
    exact List.append_nil _
  have point : (Text.ofNat number ++ (". " ++ (step ++ rest))).dropWhile Text.isDigit =
      ". " ++ (step ++ rest) := by
    rw [List.dropWhile_append_of_pos fun _ => isDigit_of_mem_ofNat]
    rfl
  obtain ⟨first, behind, rfl, notBlank⟩ :=
    Text.exists_cons_of_trim_eq isStep.trimmed isStep.notEmpty
  have blanks : Text.dropBlanks (" " ++ (first :: behind ++ rest)) = first :: behind ++ rest :=
    Text.dropBlanks_cons notBlank _
  obtain ⟨digit, further, number⟩ : ∃ digit further, Text.ofNat number = digit :: further :=
    List.exists_cons_of_ne_nil Nat.toDigits_ne_nil
  rw [stepMark?, Text.after?_eq_some_iff.mpr rfl, Option.bind_eq_bind, Option.bind_some, digits,
    point, number]
  exact congrArg some blanks

theorem stepMark?_eq_none {text : Text} (other : ¬ ("\n" : Text) <+: text) :
    stepMark? text = none := by
  rw [stepMark?, Text.after?_eq_none other]
  rfl

/-- The numbered lines of steps are cut into the steps. -/
theorem cutAround_stepLines {steps : List Text} (areSteps : ∀ step ∈ steps, IsStep step)
    (number : Nat) : Text.cutAround stepMark? (stepLines number steps) = [] :: steps := by
  induction steps generalizing number with
  | nil => rfl
  | cons step steps inductionHypothesis =>
    obtain ⟨here, later⟩ := List.forall_mem_cons.mp areSteps
    have mark := stepMark?_stepLines number here (stepLines (number + 1) steps)
    have apart : isApart ("\n" : Text) step = true :=
      Text.isApart_of_head_not_mem here.noNewline []
    have misses : Misses stepMark? step (stepLines (number + 1) steps) :=
      Text.misses_of_isApart (fun _ => stepMark?_eq_none) apart _
    have further := Text.cutAround_append misses (inductionHypothesis later (number + 1))
    rw [List.append_nil] at further
    have parts : stepLines number (step :: steps) =
        "\n" ++ (Text.ofNat number ++ ". ") ++ (step ++ stepLines (number + 1) steps) := by
      simp only [stepLines, List.append_assoc]
    have notEmpty : "\n".toList ++ (Text.ofNat number ++ ". ".toList) ≠ [] :=
      List.cons_ne_nil _ _
    rw [parts, Text.cutAround_of_read notEmpty, further]
    rw [List.append_assoc, List.append_assoc]
    exact mark

/-- A list of steps ends with a step, behind which nothing is trimmed. -/
theorem trimRight_stepLines {steps : List Text} (areSteps : ∀ step ∈ steps, IsStep step)
    (number : Nat) : Text.trimRight (stepLines number steps) = stepLines number steps := by
  induction steps generalizing number with
  | nil => rfl
  | cons step steps inductionHypothesis =>
    obtain ⟨here, later⟩ := List.forall_mem_cons.mp areSteps
    obtain ⟨front, last, rfl, notBlank⟩ :=
      Text.exists_concat_of_trim_eq here.trimmed here.notEmpty
    have parts : stepLines number ((front ++ [last]) :: steps) =
        "\n" ++ (Text.ofNat number ++ (". " ++ front)) ++ last :: stepLines (number + 1) steps := by
      simp only [stepLines, List.append_assoc, List.singleton_append]
    rw [parts, Text.trimRight_append notBlank, inductionHypothesis later]

/-- Trimming a list of steps takes the newline in front of it away. -/
theorem newline_cons_trim_stepLines {step : Text} {steps : List Text}
    (areSteps : ∀ other ∈ step :: steps, IsStep other) (number : Nat) :
    '\n' :: Text.trim (stepLines number (step :: steps)) = stepLines number (step :: steps) := by
  obtain ⟨digit, further, digits⟩ : ∃ digit further, Text.ofNat number = digit :: further :=
    List.exists_cons_of_ne_nil Nat.toDigits_ne_nil
  have notBlank : Text.isBlank digit = false :=
    isBlank_of_mem_ofNat (digits ▸ List.mem_cons_self)
  have parts : stepLines number (step :: steps) =
      '\n' :: digit :: (further ++ (". " ++ (step ++ stepLines (number + 1) steps))) := by
    rw [stepLines, digits]
    rfl
  rw [Text.trim, ← Text.dropBlanks_trimRight, trimRight_stepLines areSteps, parts,
    Text.dropBlanks_cons_of_isBlank (by decide), Text.dropBlanks_cons notBlank]

/-- A list of steps starts with a number. -/
theorem eq_nil_of_isAllBlank_stepLines {steps : List Text} {number : Nat}
    (blank : Text.isAllBlank (stepLines number steps) = true) : steps = [] := by
  cases steps with
  | nil => rfl
  | cons step steps =>
    obtain ⟨digit, further, digits⟩ : ∃ digit further, Text.ofNat number = digit :: further :=
      List.exists_cons_of_ne_nil Nat.toDigits_ne_nil
    have isBlank : Text.isBlank digit = true := by
      refine List.all_eq_true.mp blank digit ?_
      rw [stepLines, digits]
      exact List.mem_cons_of_mem _ List.mem_cons_self
    rw [isBlank_of_mem_ofNat (digits ▸ List.mem_cons_self)] at isBlank
    cases isBlank

/-- Steps that are written as numbered lines are read back. -/
theorem stepsOf_stepLines {steps : List Text} (areSteps : ∀ step ∈ steps, IsStep step) :
    stepsOf (Text.trim (stepLines 1 steps)) = steps := by
  have trimmed : steps.map Text.trim = steps :=
    (List.map_congr_left fun step member => (areSteps step member).trimmed).trans (List.map_id _)
  have kept : steps.filter (fun step => decide (step ≠ [])) = steps :=
    List.filter_eq_self.mpr fun step member => decide_eq_true (areSteps step member).notEmpty
  cases steps with
  | nil => rfl
  | cons step steps =>
    rw [stepsOf, newline_cons_trim_stepLines areSteps, cutAround_stepLines areSteps, List.map_cons,
      trimmed, List.filter_cons_of_neg (by decide), kept]

/-! ### A case by itself -/

namespace WrittenCase

/-- The last line of a case without the blanks at its end. -/
def lastLine (written : WrittenCase) : Text :=
  Label.evidence.text ++ Text.trimRight (" " ++ written.evidence)

/-- The lines of a case without the blanks at their end. -/
def chunk (written : WrittenCase) : Text :=
  written.upToEvidence ++ written.lastLine

/-- What is written of a case is trimmed on its right only behind the label of the evidence. -/
theorem trim_text_append {written : WrittenCase} (wellFormed : written.WellFormed) (gap : Text) :
    Text.trim (written.text ++ gap) = written.upToEvidence ++ (Label.evidence.text ++
      Text.trimRight (" " ++ (written.evidence ++ ("\n" ++ gap)))) := by
  obtain ⟨tail, starts, _⟩ := startsCase_text wellFormed
  have front : Text.dropBlanks (written.text ++ gap) = written.text ++ gap := by
    rw [starts]
    exact Text.dropBlanks_cons Label.id.isBlank_head _
  have parts : written.text ++ gap = (written.upToEvidence ++ "実装根拠".toList) ++
      ':' :: (" " ++ (written.evidence ++ ("\n" ++ gap))) := by
    simp only [text, line, Label.text_evidence, List.append_assoc, List.cons_append,
      List.nil_append]
  rw [Text.trim, front, parts, Text.trimRight_append (by decide), Label.text_evidence]
  simp only [List.append_assoc, List.singleton_append]

theorem trim_text_append_of_blank {written : WrittenCase} (wellFormed : written.WellFormed)
    {gap : Text} (blank : Text.isAllBlank gap = true) :
    Text.trim (written.text ++ gap) = written.chunk := by
  have blanks : Text.isAllBlank ("\n" ++ gap) = true := by
    rw [Text.isAllBlank, List.all_append, ← Text.isAllBlank, ← Text.isAllBlank, blank]
    rfl
  rw [trim_text_append wellFormed, ← List.append_assoc " ".toList,
    Text.trimRight_append_of_blank blanks]
  rfl

theorem not_infix_space {label : Label} (mark : label ∈ Label.marks) {value : Text}
    (isField : IsField value) : ¬ label.text <:+: " " ++ value :=
  Text.not_infix_append label.isApart_space (isField.unmarked label mark)

theorem trim_space {value : Text} (isField : IsField value) : Text.trim (" " ++ value) = value :=
  (Text.trim_cons_of_isBlank (by decide) value).trans isField.trimmed

theorem not_infix_evidence {written : WrittenCase} (wellFormed : written.WellFormed)
    {label : Label} (mark : label ∈ Label.marks) :
    ¬ label.text <:+: Text.trimRight (" " ++ written.evidence) := fun held =>
  not_infix_space mark wellFormed.evidence (held.trans (Text.trimRight_isPrefix _).isInfix)

theorem not_infix_lastLine {written : WrittenCase} (wellFormed : written.WellFormed)
    {label : Label} (mark : label ∈ Label.marks) (notEvidence : label ≠ .evidence) :
    ¬ label.text <:+: written.lastLine :=
  Text.not_infix_append (Label.isApart_text notEvidence) (not_infix_evidence wellFormed mark)

theorem fieldUpTo_preconditions {written : WrittenCase} (wellFormed : written.WellFormed) :
    fieldUpTo Label.preconditions.text Label.steps.text written.chunk = written.preconditions := by
  have parts : written.chunk = written.heading ++ (Label.preconditions.text ++
      ((" " ++ written.preconditions) ++ ("\n" ++ (Label.steps.text ++
        ((stepLines 1 written.steps ++ "\n") ++
          (line .expected written.expected ++ written.lastLine)))))) := by
    simp only [chunk, upToEvidence, upToExpected, upToSteps, line, List.append_assoc]
  have apart : isApart Label.preconditions.text written.heading = true :=
    isApart_heading wellFormed (by decide) (by decide) (by decide)
  have mark : Label.steps ∈ Label.marks := by decide
  rw [parts]
  refine (fieldUpTo_of_isApart apart (not_infix_space mark wellFormed.preconditions) ?_).trans
    (trim_space wellFormed.preconditions)
  exact fun _ => Text.not_infix_append (isApart_stepLines mark wellFormed.steps 1)
    (Text.not_infix_append
      (isApart_line (by decide) (isApart_field mark wellFormed.expected))
      (not_infix_lastLine wellFormed mark (by decide)))

/-- The steps are read whatever follows the line of what is expected, if there are any. -/
theorem stepsOf_fieldUpTo {written : WrittenCase} (wellFormed : written.WellFormed) {rest : Text}
    (notLater : written.steps = [] → ¬ Label.expected.text <:+: rest) :
    stepsOf (fieldUpTo Label.steps.text Label.expected.text (written.upToEvidence ++ rest)) =
      written.steps := by
  have parts : written.upToEvidence ++ rest = written.upToSteps ++ (Label.steps.text ++
      (stepLines 1 written.steps ++ ("\n" ++ (Label.expected.text ++
        (" " ++ (written.expected ++ "\n") ++ rest))))) := by
    simp only [upToEvidence, upToExpected, line, List.append_assoc]
  have mark : Label.expected ∈ Label.marks := by decide
  have notHeld : ¬ Label.expected.text <:+: stepLines 1 written.steps := fun held =>
    Text.not_infix_of_isApart (isApart_stepLines mark wellFormed.steps 1) (by decide)
      (held.trans (List.prefix_append _ _).isInfix)
  have notBehind (noSteps : Text.isAllBlank (stepLines 1 written.steps) = true) :
      ¬ Label.expected.text <:+: " " ++ (written.expected ++ "\n") ++ rest :=
    Text.not_infix_append
      (Text.isApart_append Label.expected.isApart_space (isApart_field mark wellFormed.expected))
      (notLater (eq_nil_of_isAllBlank_stepLines noSteps))
  rw [parts, fieldUpTo_of_isApart (isApart_upToSteps wellFormed (by decide)) notHeld notBehind,
    stepsOf_stepLines wellFormed.steps]

/-- What is expected is read whatever follows the label of the evidence, unless it is empty. -/
theorem fieldUpTo_expected {written : WrittenCase} (wellFormed : written.WellFormed) {rest : Text}
    (notLater : written.expected = [] → ¬ Label.evidence.text <:+: rest) :
    fieldUpTo Label.expected.text Label.evidence.text
      (written.upToEvidence ++ (Label.evidence.text ++ rest)) = written.expected := by
  have parts : written.upToEvidence ++ (Label.evidence.text ++ rest) =
      written.upToExpected ++ (Label.expected.text ++
        ((" " ++ written.expected) ++ ("\n" ++ (Label.evidence.text ++ rest)))) := by
    simp only [upToEvidence, line, List.append_assoc]
  have mark : Label.evidence ∈ Label.marks := by decide
  have notBehind (allBlank : Text.isAllBlank (" " ++ written.expected) = true) :
      ¬ Label.evidence.text <:+: rest := by
    refine notLater ?_
    rw [← trim_space wellFormed.expected, Text.trim, Text.dropBlanks_eq_nil_iff.mpr allBlank]
    rfl
  rw [parts, fieldUpTo_of_isApart (isApart_upToExpected wellFormed (by decide))
    (not_infix_space mark wellFormed.expected) notBehind, trim_space wellFormed.expected]

theorem lastField_evidence {written : WrittenCase} (wellFormed : written.WellFormed) :
    lastField Label.evidence.text written.chunk = written.evidence := by
  rw [chunk, lastLine, lastField_of_isApart (isApart_upToEvidence wellFormed),
    Text.trim_trimRight, trim_space wellFormed.evidence]

theorem choice_category {written : WrittenCase} (wellFormed : written.WellFormed) (rest : Text) :
    choice Label.category.text Category.word Category.all (written.upToEvidence ++ rest) =
      some written.category := by
  obtain ⟨behind, parts⟩ : ∃ behind, written.upToEvidence ++ rest =
      line .id ("TC-" ++ written.number) ++ (Label.category.text ++
        (" " ++ ("[" ++ (written.category.word ++ ("]" ++ behind))))) := by
    simp only [upToEvidence, upToExpected, upToSteps, heading, line, List.append_assoc]
    exact ⟨_, rfl⟩
  have found : Category.all.find? (fun other => Text.opensWith (other.word ++ "]")
      (written.category.word ++ ("]" ++ behind))) = some written.category := by
    cases written.category <;> rfl
  rw [parts]
  exact choice_of_isApart (isApart_line (by decide) (isApart_number wellFormed .category)) found

theorem choice_priority {written : WrittenCase} (wellFormed : written.WellFormed) (rest : Text) :
    choice Label.priority.text Priority.word Priority.all (written.upToEvidence ++ rest) =
      some written.priority := by
  obtain ⟨behind, parts⟩ : ∃ behind, written.upToEvidence ++ rest =
      (line .id ("TC-" ++ written.number) ++
        line .category ("[" ++ (written.category.word ++ "]"))) ++ (Label.priority.text ++
          (" " ++ ("[" ++ (written.priority.word ++ ("]" ++ behind))))) := by
    simp only [upToEvidence, upToExpected, upToSteps, heading, line, List.append_assoc]
    exact ⟨_, rfl⟩
  have found : Priority.all.find? (fun other => Text.opensWith (other.word ++ "]")
      (written.priority.word ++ ("]" ++ behind))) = some written.priority := by
    cases written.priority <;> rfl
  have apart : isApart Label.priority.text (line .id ("TC-" ++ written.number) ++
      line .category ("[" ++ (written.category.word ++ "]"))) = true :=
    Text.isApart_append (isApart_line (by decide) (isApart_number wellFormed .priority))
      (isApart_line (by decide) (isApart_category .priority written.category))
  rw [parts]
  exact choice_of_isApart apart found

/-- A case starts with its number. -/
theorem caseMark_prefix_upToEvidence (written : WrittenCase) :
    caseMark " " written.number <+: written.upToEvidence := by
  have first : caseMark " " written.number <+: line .id ("TC-" ++ written.number) :=
    ⟨"\n", by simp only [caseMark, line, List.append_assoc]⟩
  have heading : line .id ("TC-" ++ written.number) <+: written.heading :=
    (List.prefix_append _ _).trans (List.prefix_append _ _)
  have upToExpected : written.heading <+: written.upToExpected :=
    (List.prefix_append _ _).trans (List.prefix_append _ _)
  exact first.trans (heading.trans (upToExpected.trans (List.prefix_append _ _)))

theorem caseId?_upToEvidence {written : WrittenCase} (wellFormed : written.WellFormed)
    (rest : Text) : caseId? (written.upToEvidence ++ rest) = some ("TC-" ++ written.number) := by
  obtain ⟨more, equal⟩ := caseMark_prefix_upToEvidence written
  rw [← equal, List.append_assoc]
  exact caseId?_caseMark ⟨by decide, wellFormed.length_number, wellFormed.isDigit_number⟩ _

/-- The case that is read from what was written of a case is the case that was meant. -/
theorem ofChunk?_chunk {written : WrittenCase} (wellFormed : written.WellFormed) :
    Case.ofChunk? written.chunk = some written.toCase := by
  have id : Text.findFirst caseId? written.chunk = some ("TC-" ++ written.number) :=
    Text.findFirst_of_read (caseId?_upToEvidence wellFormed _)
  have preconditions : fieldUpTo preconditionsLabel stepsLabel written.chunk =
      written.preconditions :=
    fieldUpTo_preconditions wellFormed
  have steps : stepsOf (fieldUpTo stepsLabel expectedLabel written.chunk) = written.steps :=
    stepsOf_fieldUpTo wellFormed fun _ =>
      not_infix_lastLine wellFormed (by decide) (by decide)
  have expected : fieldUpTo expectedLabel evidenceLabel written.chunk = written.expected :=
    fieldUpTo_expected wellFormed fun _ => not_infix_evidence wellFormed (by decide)
  have evidence : lastField evidenceLabel written.chunk = written.evidence :=
    lastField_evidence wellFormed
  have category : choice categoryLabel Category.word Category.all written.chunk =
      some written.category :=
    choice_category wellFormed _
  have priority : choice priorityLabel Priority.word Priority.all written.chunk =
      some written.priority :=
    choice_priority wellFormed _
  rw [Case.ofChunk?, id, Option.map_some, preconditions, steps, expected, evidence, category,
    priority]
  rfl

end WrittenCase

/-! ### Cases in a report -/

/-- Cases as they are written one after the other, each with the text behind it. -/
def printed (written : List (WrittenCase × Text)) : Text :=
  written.flatMap fun entry => entry.1.text ++ entry.2

/-- Whether cases can be written one after the other: behind each there are only blanks. -/
def Printable (written : List (WrittenCase × Text)) : Prop :=
  ∀ entry ∈ written, entry.1.WellFormed ∧ Text.isAllBlank entry.2 = true

theorem printed_cons (entry : WrittenCase × Text) (written : List (WrittenCase × Text)) :
    printed (entry :: written) = (entry.1.text ++ entry.2) ++ printed written :=
  rfl

theorem caseId?_eq_none {text : Text} (other : ¬ Label.id.text <+: text) : caseId? text = none := by
  have label : Text.after? idLabel text = none := Text.after?_eq_none other
  rw [caseId?, label]
  rfl

/-- Whether it can be seen where cases start that are written one after the other: no case starts
in the text behind each. -/
def Separable (written : List (WrittenCase × Text)) : Prop :=
  ∀ entry ∈ written, entry.1.WellFormed ∧ Text.findFirst caseId? entry.2 = none

/-- Cases that can be printed can be told apart. -/
theorem Printable.separable {written : List (WrittenCase × Text)} (printable : Printable written) :
    Separable written := by
  intro entry member
  obtain ⟨wellFormed, blank⟩ := printable entry member
  have apart : isApart Label.id.text entry.2 = true :=
    Label.isApart_of_head_not_mem fun isHead =>
      Bool.eq_false_iff.mp Label.id.isBlank_head (List.all_eq_true.mp blank _ isHead)
  have misses : Misses caseId? entry.2 [] :=
    Text.misses_of_isApart (fun _ => caseId?_eq_none) apart _
  refine ⟨wellFormed, ?_⟩
  rw [← List.append_nil entry.2, Text.findFirst_append misses]
  rfl

theorem printed_eq_nil_or_cons {written : List (WrittenCase × Text)}
    (separable : Separable written) :
    printed written = [] ∨ ∃ rest, printed written = Label.id.head :: rest := by
  cases written with
  | nil => exact .inl rfl
  | cons entry written =>
    obtain ⟨tail, starts, _⟩ :=
      WrittenCase.startsCase_text (List.forall_mem_cons.mp separable).1.1
    rw [printed_cons, starts]
    exact .inr ⟨_, rfl⟩

/-- No case starts in a text without cases, whatever cases follow it. -/
theorem misses_printed {front : Text} (noCase : Text.findFirst caseId? front = none)
    {written : List (WrittenCase × Text)} (separable : Separable written) :
    Misses caseId? front (printed written) := by
  induction front with
  | nil => trivial
  | cons char front inductionHypothesis =>
    rw [Text.findFirst, Option.or_eq_none_iff] at noCase
    refine ⟨?_, inductionHypothesis noCase.2⟩
    obtain nothing | ⟨rest, equal⟩ := printed_eq_nil_or_cons separable
    · rw [nothing, List.append_nil]
      exact noCase.1
    · rw [equal]
      exact caseId?_append_head (List.cons_ne_nil _ _) noCase.1 rest

/-- The pieces of what was written are the cases. -/
theorem cutBefore_printed {written : List (WrittenCase × Text)} (separable : Separable written) :
    Text.cutBefore (fun text => (caseId? text).isSome) (printed written) =
      [] :: written.map fun entry => entry.1.text ++ entry.2 := by
  induction written with
  | nil => rfl
  | cons entry written inductionHypothesis =>
    obtain ⟨⟨wellFormed, noCase⟩, later⟩ := List.forall_mem_cons.mp separable
    have marked : caseId? (entry.1.text ++ entry.2 ++ printed written) =
        some ("TC-" ++ entry.1.number) := by
      rw [WrittenCase.text, List.append_assoc, List.append_assoc]
      exact WrittenCase.caseId?_upToEvidence wellFormed _
    obtain ⟨tail, starts, apart⟩ := WrittenCase.startsCase_text wellFormed
    have misses : Misses caseId? (tail ++ entry.2) (printed written) :=
      (Text.misses_of_isApart (fun _ => caseId?_eq_none) apart _).append
        (misses_printed noCase later)
    have further := Text.cutBefore_append misses (inductionHypothesis later)
    rw [List.append_nil] at further
    rw [starts, List.cons_append, List.cons_append] at marked
    rw [printed_cons, List.map_cons, starts, List.cons_append, List.cons_append, Text.cutBefore,
      marked, further]
    rfl

/-- In front of the cases there is one more piece. -/
theorem cutBefore_append_printed {header : Text} (noCase : Text.findFirst caseId? header = none)
    {written : List (WrittenCase × Text)} (separable : Separable written) :
    Text.cutBefore (fun text => (caseId? text).isSome) (header ++ printed written) =
      header :: written.map fun entry => entry.1.text ++ entry.2 := by
  have pieces := Text.cutBefore_append (misses_printed noCase separable)
    (cutBefore_printed separable)
  rwa [List.append_nil] at pieces

/-- There is no case in a text without cases when it is trimmed. -/
theorem ofChunk?_trim_eq_none {front : Text} (noCase : Text.findFirst caseId? front = none) :
    Case.ofChunk? (Text.trim front) = none := by
  rw [Case.ofChunk?, Text.findFirst_trim ignoresBlanks_caseId?, noCase, Option.map_none]

/-- The cases that are read from a report are the cases that were written into it, in their order,
if the text in front of them holds none. -/
theorem casesOf_printed {header : Text} (noCase : Text.findFirst caseId? header = none)
    {written : List (WrittenCase × Text)} (printable : Printable written) :
    casesOf (header ++ printed written) = written.map fun entry => entry.1.toCase := by
  have read : ∀ entry ∈ written,
      Case.ofChunk? (Text.trim (entry.1.text ++ entry.2)) = some entry.1.toCase := by
    intro entry member
    obtain ⟨wellFormed, blank⟩ := printable entry member
    rw [WrittenCase.trim_text_append_of_blank wellFormed blank,
      WrittenCase.ofChunk?_chunk wellFormed]
  rw [casesOf, chunks, cutBefore_append_printed noCase printable.separable, List.map_cons,
    List.filterMap_cons_none (ofChunk?_trim_eq_none noCase), List.map_map, List.filterMap_map,
    Function.comp_def, Function.comp_def, List.filterMap_congr read, List.filterMap_eq_map']

/-- A case with digits and points in a step, another label in a step and lines in the fields. -/
def fullCase : WrittenCase :=
  { number := "007"
    category := .security
    priority := .high
    preconditions := "カテゴリ: [正常系]\n優先度: [低]"
    steps := ["1. 5. open", "前提条件: x"]
    expected := "a\n\n2. b"
    evidence := "テスト" }

/-- A case without steps and with empty fields. -/
def emptyCase : WrittenCase :=
  { number := "999"
    category := .boundary
    priority := .low
    preconditions := ""
    steps := []
    expected := ""
    evidence := "" }

/-- A case with all its fields and one with empty ones, behind a mark without a number. -/
theorem casesOf_printed_fullCase_emptyCase :
    Text.findFirst caseId? "テストケースID: TC-" = none ∧
      Printable [(fullCase, "\n"), (emptyCase, "")] ∧
        casesOf ("テストケースID: TC-" ++ printed [(fullCase, "\n"), (emptyCase, "")]) =
          [fullCase.toCase, emptyCase.toCase] := by
  have noCase : Text.findFirst caseId? "テストケースID: TC-" = none := by
    decide
  have full : fullCase.WellFormed := by
    decide
  have empty : emptyCase.WellFormed := by
    decide
  have printable : Printable [(fullCase, "\n"), (emptyCase, "")] := by
    simp [Printable, full, empty, Text.isAllBlank, Text.isBlank]
  exact ⟨noCase, printable, casesOf_printed noCase printable⟩

end BrowserPlan.Report
