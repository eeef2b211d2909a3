/-
This file proves what is evaluated for an assertion with a message.

The argument of an assertion is all that stands up to the end of its statement, and nobody looks
for a comma in it. So a message behind a condition goes into the expression as well, and no
assertion with a message gives the action of its condition alone.
-/

import BrowserPlan.Plan.Lowering
import BrowserPlan.Proofs.Action.RoundTrip

namespace BrowserPlan

open Java (Uncommented uncommented_code)

/-! ### Parts that open no parenthesis -/

theorem opensFirst_of_notMem {text : Text} (noOpening : '(' ∉ text) : opensFirst text = false := by
  induction text with
  | nil => rfl
  | cons char text inductionHypothesis =>
    have notOpening : char ≠ '(' := fun equal => noOpening (equal ▸ List.mem_cons_self)
    have further := inductionHypothesis fun member => noOpening (List.mem_cons_of_mem _ member)
    rw [opensFirst, further]
    simp [notOpening]

/-- Nothing is read in the last part of a text, if no parenthesis is opened in it. -/
theorem quiet_of_notMem (construct : Construct) {part : Text} (noOpening : '(' ∉ part) :
    Quiet construct part [] := by
  induction part with
  | nil => trivial
  | cons char part inductionHypothesis =>
    refine ⟨fun before => Construct.read_eq_none ?_ before,
      inductionHypothesis fun member => noOpening (List.mem_cons_of_mem _ member)⟩
    rintro ⟨behind, word, opens⟩
    have noneBehind : '(' ∉ behind := by
      intro member
      rw [List.append_nil] at word
      refine noOpening ?_
      rw [Text.after?_eq_some_iff.mp word]
      exact List.mem_append_right _ member
    rw [opensFirst_of_notMem noneBehind] at opens
    cases opens

/-! ### One finding in a text -/

/-- What a search finds in all of a text. -/
theorem Yields.findAll {construct : Construct} {text : Text} {found : List (Nat × Action)}
    (yields : Yields construct none text [] found) : construct.findAll text = found := by
  have search := yields 0
  rw [List.append_nil, Text.findFrom, List.append_nil] at search
  rw [Construct.findAll, Text.findAll, search, List.filterMap_map]
  simp

/-- If every search finds in a text what is listed for it in one finding, the text gives the action
of that finding. -/
theorem actionsOfBody_of_finding {body : Text} {finding : Finding}
    (unmasked : Java.masked .commentsOnly body = body)
    (found : ∀ construct : Construct, construct.findAll body = foundBy construct [finding])
    (order : ActionOrder) : actionsOfBody body order = [finding.action] := by
  have listed : findActions body = [finding.listed] := by
    rw [findActions]
    simp only [found]
    exact List.perm_singleton.mp (flatMap_foundBy_perm [finding])
  cases order with
  | grouped =>
    rw [actionsOfBody, unmasked, listed]
    rfl
  | source =>
    rw [actionsOfBody, unmasked, listed]
    exact congrArg (List.map Prod.snd) (List.mergeSort_singleton _)

/-- Every other construct is strange to the opening of an assertion. -/
theorem Asserts.isStrangeTo_opening {own : Construct} {action : Text → Action}
    (asserts : Asserts own action) {construct : Construct} (other : construct ≠ own) :
    construct.isStrangeTo ("\x7b " ++ (own.anchor ++ "(")) = true := by
  cases asserts <;> cases construct <;> first | rfl | exact absurd rfl other

/-! ### Assertions as they are written -/

/-- An assertion as it is written: whether its condition is said to hold or not to hold, the
condition, and the message if there is one. -/
structure Assertion where
  holds : Bool
  condition : Text
  message? : Option Text := none
  deriving DecidableEq, Repr

namespace Assertion

/-- What stands between the parentheses. -/
def argument (assertion : Assertion) : Text :=
  match assertion.message? with
  | none => assertion.condition
  | some message => assertion.condition ++ (", " ++ Java.literal message)

/-- The construct that the assertion is recognised by. -/
def construct (assertion : Assertion) : Construct :=
  if assertion.holds then .assertTrue else .assertFalse

/-- A body in which the assertion is the only statement. -/
def body (assertion : Assertion) : Text :=
  "\x7b " ++ (assertion.construct.anchor ++ ("(" ++ (assertion.argument ++ "); \x7d")))

/-- The action that asserts an expression in the same way. -/
def action (assertion : Assertion) (expression : Text) : Action :=
  if assertion.holds then .assertTrue expression else .assertFalse expression

/-- The script that evaluates an expression in the same way. -/
def script (assertion : Assertion) (expression : Text) : Text :=
  if assertion.holds then "() => !!(" ++ expression ++ ")" else "() => !(" ++ expression ++ ")"

/-- The assertion without its message. -/
def bare (assertion : Assertion) : Assertion :=
  { assertion with message? := none }

/-- The condition is trimmed, code alone, and neither empty nor the word for true. No semicolon
stands in it or in the message, and no parenthesis is opened there. -/
structure WellFormed (assertion : Assertion) : Prop where
  trimmed : Text.trim assertion.condition = assertion.condition
  notEmpty : assertion.condition ≠ []
  notTrue : assertion.condition ≠ "true"
  code : assertion.condition.all Java.isBare = true
  noSemicolon : ';' ∉ assertion.condition
  noOpening : '(' ∉ assertion.condition
  message : ∀ message ∈ assertion.message?, ';' ∉ message ∧ '(' ∉ message

theorem WellFormed.bare {assertion : Assertion} (wellFormed : assertion.WellFormed) :
    assertion.bare.WellFormed :=
  { wellFormed with message := fun _ member => nomatch member }

theorem asserts (assertion : Assertion) : Asserts assertion.construct assertion.action := by
  unfold construct action
  cases assertion.holds with
  | true => exact .assertTrue
  | false => exact .assertFalse

/-! ### The argument -/

variable {assertion : Assertion}

/-- A character that is neither in the condition nor in the message, nor needed to write them, is
not in the argument. -/
theorem notMem_argument {char : Char} (notComma : char ∉ (", " : Text))
    (notLetter : char ∉ Java.escapeLetters) (inCondition : char ∉ assertion.condition)
    (inMessage : ∀ message ∈ assertion.message?, char ∉ message) : char ∉ assertion.argument := by
  obtain ⟨_, _, message?⟩ := assertion
  cases message? with
  | none => exact inCondition
  | some message =>
    intro member
    rcases List.mem_append.mp member with condition | member
    · exact inCondition condition
    · rcases List.mem_append.mp member with comma | literal
      · exact notComma comma
      · exact inMessage message rfl (Java.mem_of_mem_literal notLetter literal)

theorem WellFormed.noSemicolon_argument (wellFormed : assertion.WellFormed) :
    ';' ∉ assertion.argument :=
  notMem_argument (by decide) (by decide) wellFormed.noSemicolon
    fun message member => (wellFormed.message message member).1

theorem WellFormed.noOpening_argument (wellFormed : assertion.WellFormed) :
    '(' ∉ assertion.argument :=
  notMem_argument (by decide) (by decide) wellFormed.noOpening
    fun message member => (wellFormed.message message member).2

theorem WellFormed.trim_argument (wellFormed : assertion.WellFormed) :
    Text.trim assertion.argument = assertion.argument := by
  obtain ⟨first, rest, starts, notBlank⟩ :=
    Text.exists_cons_of_trim_eq wellFormed.trimmed wellFormed.notEmpty
  unfold argument
  cases assertion.message? with
  | none => exact wellFormed.trimmed
  | some message =>
    have ends : first :: rest ++ (", " ++ Java.literal message) =
        first :: rest ++ (", " ++ '"' :: Java.escape message) ++ ['"'] := by
      simp [Java.literal]
    show Text.trim (assertion.condition ++ (", " ++ Java.literal message)) = _
    rw [starts, Text.trim, List.cons_append, Text.dropBlanks_cons notBlank, ← List.cons_append,
      ends, Text.trimRight_concat rfl]
    exact ends.symm

theorem WellFormed.argument_ne_nil (wellFormed : assertion.WellFormed) :
    assertion.argument ≠ [] := by
  unfold argument
  cases assertion.message? with
  | none => exact wellFormed.notEmpty
  | some message => exact List.append_ne_nil_of_left_ne_nil wellFormed.notEmpty _

theorem WellFormed.argument_ne_true (wellFormed : assertion.WellFormed) :
    assertion.argument ≠ "true" := by
  obtain ⟨_, condition, message?⟩ := assertion
  cases message? with
  | none => exact wellFormed.notTrue
  | some message =>
    intro equal
    have quote : '"' ∈ condition ++ (", " ++ Java.literal message) := by
      simp [Java.literal]
    rw [show condition ++ (", " ++ Java.literal message) = "true" from equal] at quote
    exact absurd quote (by decide)

/-- A message makes the argument longer than the condition. -/
theorem argument_eq_condition_iff :
    assertion.argument = assertion.condition ↔ assertion.message? = none := by
  unfold argument
  cases assertion.message? with
  | none => simp
  | some message => simp

/-! ### What is recognised and evaluated -/

/-- The finding of the assertion in its body. -/
def finding (assertion : Assertion) : Finding :=
  ⟨assertion.construct, 2, assertion.action assertion.argument⟩

theorem WellFormed.masked_body (wellFormed : assertion.WellFormed) :
    Java.masked .commentsOnly assertion.body = assertion.body := by
  have front : Uncommented "\x7b " := uncommented_code rfl
  have called : Uncommented (assertion.construct.anchor ++ "(") := by
    cases assertion.construct <;> exact uncommented_code rfl
  have closing : Uncommented "); \x7d" := uncommented_code rfl
  have comma : Uncommented ", " := uncommented_code rfl
  have condition : Uncommented assertion.condition := uncommented_code wellFormed.code
  have passed : Uncommented (assertion.argument ++ "); \x7d") := by
    unfold argument
    cases assertion.message? with
    | none => exact condition.append closing
    | some message =>
      have further := condition.append (comma.append (closing.literal_append rfl message))
      simpa only [List.append_assoc] using further
  have whole := front.append (called.append passed)
  rw [List.append_assoc] at whole
  exact whole.masked_eq

/-- The assertion is read with all of its argument. -/
theorem WellFormed.read_call (wellFormed : assertion.WellFormed) (before : Option Char)
    (rest : Text) :
    assertion.construct.read before
        (assertion.construct.anchor ++ ("(" ++ (assertion.argument ++ (");" ++ rest)))) =
      some (some (assertion.action assertion.argument), rest) := by
  refine assertion.asserts.read_of_some ?_ wellFormed.argument_ne_true before
  have noSemicolon : ';' ∉ assertion.argument ++ [')'] := by
    simpa using wellFormed.noSemicolon_argument
  have read := readStatement_append assertion.construct.anchor noSemicolon rest
  rw [beforeParenthesis?_concat, Option.filter_some_pos (by simpa using wellFormed.argument_ne_nil),
    Option.map_some, wellFormed.trim_argument, List.append_assoc] at read
  exact read

/-- In the body just the assertion is found, by its own construct. -/
theorem WellFormed.findAll_body (wellFormed : assertion.WellFormed) (construct : Construct) :
    construct.findAll assertion.body = foundBy construct [assertion.finding] := by
  refine Yields.findAll ?_
  rcases eq_or_ne construct assertion.construct with rfl | other
  · have written : assertion.body =
        "\x7b " ++ (assertion.construct.anchor ++ ("(" ++ (assertion.argument ++ ");")) ++
          (" \x7d" : Text)) := by
      simp only [body, List.append_assoc]
      rfl
    have found : foundBy assertion.construct [assertion.finding] =
        [(2, assertion.action assertion.argument)] :=
      foundBy_self _ _ _
    have front : assertion.construct.isStrangeTo "\x7b " = true := by
      cases assertion.construct <;> rfl
    rw [written, found]
    refine yields_call ?_ (quiet_of_code front _) ?_ (quiet_of_notMem _ (by decide))
    · cases assertion.construct <;> exact List.cons_ne_nil _ _
    · simp only [List.append_assoc]
      exact wellFormed.read_call _ _
  · have written : assertion.body =
        "\x7b " ++ (assertion.construct.anchor ++ "(") ++
          (assertion.argument ++ ("); \x7d" : Text)) := by
      simp only [body, List.append_assoc]
    have nothing : foundBy construct [assertion.finding] = [] := foundBy_of_ne (Ne.symm other) _ _
    -- The argument may hold the word of the construct, but it is not called there.
    have noOpening : '(' ∉ assertion.argument ++ ("); \x7d" : Text) := by
      simpa using wellFormed.noOpening_argument
    rw [nothing, written]
    exact ((quiet_of_code (assertion.asserts.isStrangeTo_opening other) _).append
      (quiet_of_notMem construct noOpening)).yields none

/-- The whole argument becomes the expression, a message included. -/
theorem WellFormed.actionsOfBody_body (wellFormed : assertion.WellFormed) (order : ActionOrder) :
    actionsOfBody assertion.body order = [assertion.action assertion.argument] :=
  actionsOfBody_of_finding wellFormed.masked_body wellFormed.findAll_body order

theorem action_injective (assertion : Assertion) : Function.Injective assertion.action := by
  intro first second equal
  unfold action at equal
  split_ifs at equal <;> cases equal <;> rfl

/-- An assertion is evaluated at once, and nothing is known anew about the page. -/
theorem exists_step_of_action (assertion : Assertion) (target : PlanTarget) (view : PageView)
    (expression : Text) :
    ∃ step, lowerAll target view [assertion.action expression] = (view, [step]) ∧
      step.instruction = .evaluate (assertion.script expression) := by
  unfold action script
  cases assertion.holds with
  | true => exact ⟨_, rfl, rfl⟩
  | false => exact ⟨_, rfl, rfl⟩

end Assertion

/-- Of an assertion all of the argument is evaluated. So it gives what its condition alone would
give if it has no message, and otherwise never. -/
theorem assertion_evaluates_argument {assertion : Assertion} (wellFormed : assertion.WellFormed)
    (order : ActionOrder) (target : PlanTarget) (view : PageView) :
    actionsOfBody assertion.body order = [assertion.action assertion.argument] ∧
      (∃ step, lowerAll target view (actionsOfBody assertion.body order) = (view, [step]) ∧
        step.instruction = .evaluate (assertion.script assertion.argument)) ∧
      (actionsOfBody assertion.body order = actionsOfBody assertion.bare.body order ↔
        assertion.message? = none) := by
  have written := wellFormed.actionsOfBody_body order
  have bare : actionsOfBody assertion.bare.body order = [assertion.action assertion.condition] :=
    wellFormed.bare.actionsOfBody_body order
  refine ⟨written, ?_, ?_⟩
  · rw [written]
    exact assertion.exists_step_of_action target view _
  · rw [written, bare, List.singleton_inj, assertion.action_injective.eq_iff]
    exact Assertion.argument_eq_condition_iff

/-- The assertion that a condition does not hold, with a message that takes escapes. -/
def explained : Assertion :=
  { holds := false, condition := "x > 1", message? := some "say \"no\" // twice" }

/-- A message with quotes and a comment mark in it. -/
theorem assertion_evaluates_argument_explained :
    explained.WellFormed ∧
      explained.body = "\x7b assertFalse(x > 1, \"say \\\"no\\\" // twice\"); \x7d" ∧
      actionsOfBody explained.body .source =
        [.assertFalse "x > 1, \"say \\\"no\\\" // twice\""] ∧
      actionsOfBody explained.body .source ≠ actionsOfBody explained.bare.body .source := by
  have wellFormed : explained.WellFormed :=
    ⟨rfl, by decide, by decide, rfl, by decide, by decide, by decide⟩
  obtain ⟨written, _, same⟩ := assertion_evaluates_argument wellFormed .source ⟨"", 2⟩ {}
  exact ⟨wellFormed, rfl, written, fun equal => absurd (same.mp equal) (by decide)⟩

/-- With a message another expression is asserted than without. -/
theorem message_changes_action :
    actionsOfBody "\x7b assertTrue(x, \"m\"); \x7d" .grouped = [.assertTrue "x, \"m\""] ∧
      actionsOfBody "\x7b assertTrue(x); \x7d" .grouped = [.assertTrue "x"] ∧
      actionsOfBody "\x7b assertTrue(x, \"m\"); \x7d" .grouped ≠
        actionsOfBody "\x7b assertTrue(x); \x7d" .grouped := by
  have explained : actionsOfBody "\x7b assertTrue(x, \"m\"); \x7d" .grouped =
      [.assertTrue "x, \"m\""] := rfl
  have bare : actionsOfBody "\x7b assertTrue(x); \x7d" .grouped = [.assertTrue "x"] := rfl
  refine ⟨explained, bare, ?_⟩
  rw [explained, bare]
  intro equal
  cases equal

end BrowserPlan
