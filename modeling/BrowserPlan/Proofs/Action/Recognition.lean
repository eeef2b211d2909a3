/-
This file proves what is found in one printed statement.

A construct is found in a statement where its call stands, and the parts before and behind the
call are quiet. To every other construct the whole statement is quiet. A comparison holds two
calls, one inside the other, and a condition whose name ends like an assertion is taken for one
as well.
-/

import BrowserPlan.Proofs.Action.Quiet

namespace BrowserPlan

/-! ### Findings -/

/-- The finding of a construct at a position of a text. -/
structure Finding where
  construct : Construct
  position : Nat
  action : Action

/-- A finding in a text that starts at the given position of another one. -/
def Finding.shift (offset : Nat) (finding : Finding) : Finding :=
  { finding with position := offset + finding.position }

/-- The findings of one construct, without its name. -/
def foundBy (construct : Construct) (findings : List Finding) : List (Nat × Action) :=
  findings.filterMap fun finding =>
    if finding.construct = construct then some (finding.position, finding.action) else none

theorem foundBy_append (construct : Construct) (first second : List Finding) :
    foundBy construct (first ++ second) =
      foundBy construct first ++ foundBy construct second :=
  List.filterMap_append

theorem foundBy_self (construct : Construct) (position : Nat) (action : Action) :
    foundBy construct [⟨construct, position, action⟩] = [(position, action)] := by
  simp [foundBy]

theorem foundBy_of_ne {construct other : Construct} (ne : other ≠ construct) (position : Nat)
    (action : Action) : foundBy construct [⟨other, position, action⟩] = [] := by
  simp [foundBy, ne]

/-- The construct of a call on an element. -/
def ElementCall.construct : ElementCall → Construct
  | .sendKeys _ => .fill
  | .clear => .clear
  | .click => .click
  | .getText => .getText

namespace Statement

/-- What is found in a statement, from the left. -/
def findings : Statement → List Finding
  | .openPage url => [⟨.navigate, 0, .navigate url⟩]
  | .onElement target call => [⟨call.construct, 7, call.action target.selector⟩]
  | .waitUntil condition target =>
      ⟨.wait, 11, .wait target.selector (some condition)⟩ ::
        ((assertion? condition target).map fun (construct, action) =>
          ⟨construct, 30 + (condition.length - construct.anchor.length), action⟩).toList
  | .count target => [⟨.countElements, 7, .countElements target.selector⟩]
  | .compareText expected target =>
      [⟨.assertText, 0, .assertText target.selector expected⟩,
        ⟨.getText, 22 + (Java.literal expected).length, .getText target.selector⟩]

/-- The findings in a statement are the actions that are recognised in it. -/
theorem map_action_findings (statement : Statement) :
    statement.findings.map Finding.action = statement.recognised := by
  cases statement with
  | waitUntil condition target => cases equal : assertion? condition target <;>
      simp [findings, recognised, equal]
  | openPage | onElement | count | compareText => rfl

end Statement

/-! ### What a search yields in a part of a text -/

/-- Whether the search for a construct finds just this in a part of a text. -/
def Yields (construct : Construct) (before : Option Char) (part rest : Text)
    (found : List (Nat × Action)) : Prop :=
  ∀ position, Text.findFrom construct.read before position 0 (part ++ rest) =
    (found.map fun (offset, action) => (position + offset, some action)) ++
      Text.findFrom construct.read (part.getLast?.or before) (position + part.length) 0 rest

theorem Quiet.yields {construct : Construct} {part rest : Text}
    (quiet : Quiet construct part rest) (before : Option Char) :
    Yields construct before part rest [] :=
  quiet.findFrom before

/-- A call between two quiet parts is the only finding. -/
theorem yields_call {construct : Construct} {before : Option Char} {front call back rest : Text}
    {action : Action} (notEmpty : call ≠ [])
    (quietFront : Quiet construct front (call ++ (back ++ rest)))
    (read : construct.read (front.getLast?.or before) (call ++ (back ++ rest)) =
      some (some action, back ++ rest))
    (quietBack : Quiet construct back rest) :
    Yields construct before (front ++ (call ++ back)) rest [(front.length, action)] := by
  intro position
  have last : ((front ++ (call ++ back)).getLast?).or before =
      back.getLast?.or call.getLast? := by
    obtain ⟨char, equal⟩ : ∃ char, call.getLast? = some char :=
      ⟨_, List.getLast?_eq_some_getLast notEmpty⟩
    rw [List.getLast?_append, List.getLast?_append, equal]
    cases back.getLast? <;> rfl
  rw [List.append_assoc, List.append_assoc, quietFront.findFrom, Text.findFrom_hit notEmpty read,
    quietBack.findFrom, last, List.length_append, List.length_append, Nat.add_assoc, Nat.add_assoc]
  rfl

/-- A part that starts with a call and is quiet behind it yields one action, at its start. -/
theorem yields_call_first {construct : Construct} {before : Option Char} {call back rest : Text}
    {action : Action} (notEmpty : call ≠ [])
    (read : construct.read before (call ++ (back ++ rest)) = some (some action, back ++ rest))
    (quietBack : Quiet construct back rest) :
    Yields construct before (call ++ back) rest [(0, action)] :=
  @yields_call construct before [] call back rest action notEmpty trivial read quietBack

/-! ### Opening a page -/

/-- Opening a page yields what is to be found in it. -/
theorem yields_openPage {url : Text} (wellFormed : (Statement.openPage url).WellFormed)
    (construct : Construct) {before : Option Char} (apart : before.any Text.isWord = false)
    (rest : Text) :
    Yields construct before (Statement.openPage url).text rest
      (foundBy construct (Statement.openPage url).findings) := by
  rcases eq_or_ne construct .navigate with rfl | other
  · have read := readNavigate_openPage apart wellFormed.2 rest
    have written : (Statement.openPage url).text ++ rest =
        "driver.get(" ++ (Java.literal url ++ (");" ++ rest)) := by
      show "driver.get(" ++ (Java.literal url ++ ");") ++ rest = _
      simp only [List.append_assoc]
    rw [← written] at read
    have found : Yields .navigate before ((Statement.openPage url).text ++ []) rest
        [(0, .navigate url)] :=
      yields_call_first (List.cons_ne_nil _ _) (congrArg (Option.map _) read) trivial
    rwa [List.append_nil] at found
  · have opening : construct.isStrangeTo "driver.get(" = true := by
      cases construct with
      | navigate => exact absurd rfl other
      | _ => rfl
    have closing : construct.isStrangeTo ");" = true := by
      cases construct <;> rfl
    have nothing : foundBy construct (Statement.openPage url).findings = [] :=
      foundBy_of_ne (Ne.symm other) _ _
    rw [nothing]
    exact ((quiet_of_code opening _).append
      ((quiet_literal construct wellFormed.1 _).append (quiet_of_code closing rest))).yields before

/-! ### Calls on an element -/

theorem quiet_driver_lookup (construct : Construct) (target : Target) (rest : Text) :
    Quiet construct "driver." (target.lookup ++ rest) := by
  rw [target.lookup_append]
  exact quiet_driver construct ("(" ++ (target.text ++ (")" ++ rest)))

theorem readFill_eq_none {target : Target} {rest : Text}
    (noMethod : readMethod "sendKeys" rest = none) : readFill (target.lookup ++ rest) = none := by
  rw [readFill, readElement_lookup]
  simp only [Option.bind_eq_bind, Option.bind_some, noMethod]
  rfl

theorem readElementCall_eq_none {method : Text} {target : Target} {rest : Text}
    (noMethod : readMethod method rest = none) :
    readElementCall method (target.lookup ++ rest) = none := by
  rw [readElementCall, readElement_lookup]
  simp only [Option.bind_eq_bind, Option.bind_some, noMethod]
  rfl

/-- At the look-up of an element nothing is read but the call that follows. -/
theorem Construct.read_lookup {construct : Construct} {call : ElementCall}
    (other : construct ≠ call.construct) (before : Option Char) (target : Target) (rest : Text) :
    construct.read before (target.lookup ++ (call.text ++ rest)) = none := by
  cases construct with
  | fill =>
    have noMethod : readMethod "sendKeys" (call.text ++ rest) = none := by
      cases call with
      | sendKeys => exact absurd rfl other
      | clear | click | getText => rfl
    show Option.map _ (readFill (target.lookup ++ (call.text ++ rest))) = none
    rw [readFill_eq_none noMethod]
    rfl
  | clear | click | getText =>
    show Option.map _ (Option.map _
      (readElementCall _ (target.lookup ++ (call.text ++ rest)))) = none
    rw [readElementCall_eq_none]
    · rfl
    · cases call <;> first | rfl | exact absurd rfl other
  | navigate | assertText | assertTrue | assertFalse | wait | countElements =>
    exact read_of_absent rfl before

/-- Behind the lookup of its element a call is quiet. -/
theorem quiet_call (construct : Construct) {target : Target} {call : ElementCall}
    (wellFormed : (Statement.onElement target call).WellFormed) (rest : Text) :
    Quiet construct (call.text ++ ";") rest := by
  cases call with
  | sendKeys value =>
    have opening : construct.isStrangeTo ".sendKeys(" = true := by
      cases construct <;> rfl
    have closing : construct.isStrangeTo ");" = true := by
      cases construct <;> rfl
    rw [ElementCall.sendKeys_append]
    exact (quiet_of_code opening _).append
      ((quiet_literal construct wellFormed.2.1 _).append (quiet_of_code closing rest))
  | clear | click | getText =>
    refine quiet_of_code ?_ rest
    cases construct <;> rfl

/-- The reading of a call on an element passes over the look-up and the name of the method. -/
theorem Construct.read_call (before : Option Char) {target : Target} {call : ElementCall}
    (wellFormed : (Statement.onElement target call).WellFormed) (rest : Text) :
    ∃ taken back, call.text ++ ";" = taken ++ back ∧ call.construct.isStrangeTo back = true ∧
      call.construct.read before (target.lookup ++ (taken ++ (back ++ rest))) =
        some (some (call.action target.selector), back ++ rest) := by
  cases call with
  | sendKeys value =>
    have written : ElementCall.text (.sendKeys value) ++ ";" ++ rest =
        ".sendKeys(" ++ (Java.literal value ++ (");" ++ rest)) := by
      rw [List.append_assoc, ElementCall.sendKeys_append]
      rfl
    refine ⟨ElementCall.text (.sendKeys value) ++ ";", [], (List.append_nil _).symm, rfl, ?_⟩
    show Option.map _
      (readFill (target.lookup ++ (ElementCall.text (.sendKeys value) ++ ";" ++ rest))) = _
    rw [written, readFill_lookup target wellFormed.2.2]
    rfl
  | clear =>
    refine ⟨".clear()", ";", rfl, rfl, ?_⟩
    show Option.map _ (Option.map _ (readElementCall "clear"
      (target.lookup ++ (".clear()" ++ (";" ++ rest))))) = _
    rw [readElementCall_lookup target _ rfl]
    rfl
  | click =>
    refine ⟨".click()", ";", rfl, rfl, ?_⟩
    show Option.map _ (Option.map _ (readElementCall "click"
      (target.lookup ++ (".click()" ++ (";" ++ rest))))) = _
    rw [readElementCall_lookup target _ rfl]
    rfl
  | getText =>
    refine ⟨".getText()", ";", rfl, rfl, ?_⟩
    show Option.map _ (Option.map _ (readElementCall "getText"
      (target.lookup ++ (".getText()" ++ (";" ++ rest))))) = _
    rw [readElementCall_lookup target _ rfl]
    rfl

/-- A call on an element yields what is to be found in it. -/
theorem yields_onElement {target : Target} {call : ElementCall}
    (wellFormed : (Statement.onElement target call).WellFormed) (construct : Construct)
    (before : Option Char) (rest : Text) :
    Yields construct before (Statement.onElement target call).text rest
      (foundBy construct (Statement.onElement target call).findings) := by
  have noOpening : '(' ∉ target.value := by
    cases call with
    | sendKeys value => exact wellFormed.1
    | clear | click | getText => exact wellFormed
  rcases eq_or_ne construct call.construct with rfl | other
  · obtain ⟨taken, back, split, strange, read⟩ :=
      Construct.read_call (some '.') wellFormed rest
    have written : (Statement.onElement target call).text =
        "driver." ++ (target.lookup ++ taken ++ back) := by
      show "driver." ++ (target.lookup ++ (call.text ++ ";")) = _
      rw [split, List.append_assoc]
    have found : foundBy call.construct (Statement.onElement target call).findings =
        [(7, call.action target.selector)] :=
      foundBy_self _ _ _
    rw [written, found]
    refine yields_call (List.cons_ne_nil _ _) ?_ ?_ (quiet_of_code strange rest)
    · rw [List.append_assoc]
      exact quiet_driver_lookup _ target _
    · rw [List.append_assoc]
      exact read
  · have nothing : foundBy construct (Statement.onElement target call).findings = [] :=
      foundBy_of_ne (Ne.symm other) _ _
    have miss (before : Option Char) :
        construct.read before (target.lookup ++ (call.text ++ ";" ++ rest)) = none := by
      rw [List.append_assoc]
      exact Construct.read_lookup other before target (";" ++ rest)
    rw [nothing]
    have quiet : Quiet construct (target.lookup ++ (call.text ++ ";")) rest :=
      (quiet_lookup noOpening miss).append (quiet_call construct wellFormed rest)
    refine (Quiet.append ?_ quiet).yields before
    rw [List.append_assoc]
    exact quiet_driver_lookup construct target _

/-! ### Counting elements -/

theorem quiet_lookups {construct : Construct} (other : construct ≠ .countElements)
    (rest : Text) : Quiet construct "findElements(" rest := by
  cases construct with
  | fill | clear | click | getText =>
    -- The word of the construct stands here, but it goes on.
    exact ⟨fun before => Construct.read_of_word _ rfl before ("(" ++ rest),
      @quiet_of_code _ "indElements(" rfl rest⟩
  | countElements => exact absurd rfl other
  | navigate | assertText | assertTrue | assertFalse | wait => exact quiet_of_code rfl rest

theorem yields_count {target : Target} (wellFormed : (Statement.count target).WellFormed)
    (construct : Construct) (before : Option Char) (rest : Text) :
    Yields construct before (Statement.count target).text rest
      (foundBy construct (Statement.count target).findings) := by
  have quietDriver (rest : Text) : Quiet construct "driver." ("findElements(" ++ rest) :=
    quiet_driver construct ("s(" ++ rest)
  rcases eq_or_ne construct .countElements with rfl | other
  · have read := readCount_lookup target (";" ++ rest)
    have written : (Statement.count target).text =
        "driver." ++ ("findElements(" ++ (target.text ++ ").size()") ++ ";") := by
      rw [List.append_assoc, List.append_assoc]
      rfl
    rw [written]
    refine yields_call (List.cons_ne_nil _ _) ?_ ?_ (quiet_of_code rfl rest)
    · rw [List.append_assoc]
      exact quietDriver _
    · rw [List.append_assoc, List.append_assoc]
      exact congrArg (Option.map _) read
  · have nothing : foundBy construct (Statement.count target).findings = [] :=
      foundBy_of_ne (Ne.symm other) _ _
    have closing : construct.isStrangeTo ").size();" = true := by
      cases construct <;> rfl
    rw [nothing]
    have quiet : Quiet construct ("findElements(" ++ (target.text ++ ").size();")) rest :=
      (quiet_lookups other _).append
        ((quiet_target construct wellFormed _).append (quiet_of_code closing rest))
    have whole : Quiet construct ("driver." ++ ("findElements(" ++ (target.text ++ ").size();")))
        rest := by
      refine Quiet.append ?_ quiet
      rw [List.append_assoc]
      exact quietDriver _
    exact whole.yields before

/-! ### Comparing a text -/

/-- What stands in a comparison before the look-up of its element. -/
def comparisonOpening (expected : Text) : Text :=
  "assertEquals(" ++ (Java.literal expected ++ (", " ++ "driver."))

theorem length_comparisonOpening (expected : Text) :
    (comparisonOpening expected).length = 22 + (Java.literal expected).length := by
  show ("assertEquals(" ++ (Java.literal expected ++ (", " ++ "driver."))).length = _
  rw [List.length_append, List.length_append]
  show 13 + ((Java.literal expected).length + 9) = _
  omega

theorem text_compareText (expected : Text) (target : Target) :
    (Statement.compareText expected target).text =
      comparisonOpening expected ++ (target.lookup ++ ".getText());") := by
  show _ = "assertEquals(" ++ (Java.literal expected ++ (", " ++ "driver.")) ++
    (target.lookup ++ (".getText());" : Text))
  simp only [List.append_assoc]
  rfl

/-- What comes before the element of a comparison is only of interest to the construct for
comparisons. -/
theorem quiet_comparisonOpening {construct : Construct} (other : construct ≠ .assertText)
    {expected : Text} (noOpening : '(' ∉ expected) (target : Target) (rest : Text) :
    Quiet construct (comparisonOpening expected) (target.lookup ++ rest) := by
  have opening : construct.isStrangeTo "assertEquals(" = true := by
    cases construct with
    | assertText => exact absurd rfl other
    | _ => rfl
  have comma : construct.isStrangeTo ", " = true := by
    cases construct <;> rfl
  exact (quiet_of_code opening _).append ((quiet_literal construct noOpening _).append
    ((quiet_of_code comma _).append (quiet_driver_lookup construct target rest)))

theorem yields_compareText {expected : Text} {target : Target}
    (wellFormed : (Statement.compareText expected target).WellFormed) (construct : Construct)
    (before : Option Char) (rest : Text) :
    Yields construct before (Statement.compareText expected target).text rest
      (foundBy construct (Statement.compareText expected target).findings) := by
  obtain ⟨noOpening, noOpeningInTarget⟩ := wellFormed
  have findings : (Statement.compareText expected target).findings =
      [⟨.assertText, 0, .assertText target.selector expected⟩] ++
        [⟨.getText, (comparisonOpening expected).length, .getText target.selector⟩] := by
    rw [length_comparisonOpening]
    rfl
  rw [findings, foundBy_append]
  rcases eq_or_ne construct .assertText with rfl | notComparison
  · have written : (Statement.compareText expected target).text =
        "assertEquals(" ++
          (Java.literal expected ++ (", driver." ++ (target.lookup ++ ".getText"))) ++ "());" := by
      simp only [List.append_assoc]
      rfl
    have read := readAssertText_compareText expected target ("());" ++ rest)
    rw [written, foundBy_self, foundBy_of_ne (by decide)]
    refine yields_call_first (List.cons_ne_nil _ _) ?_ (quiet_of_code rfl rest)
    simp only [List.append_assoc]
    exact congrArg (Option.map _) read
  · rw [foundBy_of_ne (Ne.symm notComparison), text_compareText]
    have quietFront (rest : Text) := quiet_comparisonOpening notComparison noOpening target rest
    rcases eq_or_ne construct .getText with rfl | notText
    · have written : target.lookup ++ (".getText());" : Text) =
          target.lookup ++ (".getText()" : Text) ++ (");" : Text) := by
        rw [List.append_assoc]
        rfl
      rw [written, foundBy_self]
      refine yields_call (List.cons_ne_nil _ _) ?_ ?_ (quiet_of_code rfl rest)
      · rw [List.append_assoc]
        exact quietFront _
      · show Option.map _ (Option.map _ (readElementCall "getText"
          (target.lookup ++ (".getText()" : Text) ++ (");" ++ rest)))) = _
        rw [List.append_assoc, readElementCall_lookup target _ rfl]
        rfl
    · have closing : construct.isStrangeTo ".getText());" = true := by
        cases construct <;> rfl
      have miss (before : Option Char) :
          construct.read before (target.lookup ++ (".getText());" ++ rest)) = none :=
        @Construct.read_lookup construct .getText notText before target (");" ++ rest)
      rw [foundBy_of_ne (Ne.symm notText)]
      refine (Quiet.append ?_ ((quiet_lookup noOpeningInTarget miss).append
        (quiet_of_code closing rest))).yields before
      rw [List.append_assoc]
      exact quietFront _

/-! ### Waiting for a condition -/

/-- A text is closed by a semicolon no later than by one that is put behind it. -/
theorem exists_append_semicolon (text : Text) :
    ∃ back, text ++ [';'] = text.takeWhile (· ≠ ';') ++ ';' :: back := by
  induction text with
  | nil => exact ⟨[], rfl⟩
  | cons char text inductionHypothesis =>
    by_cases semicolon : char = ';'
    · refine ⟨text ++ [';'], ?_⟩
      rw [List.takeWhile_cons_of_neg (by simpa using semicolon), semicolon]
      rfl
    · obtain ⟨back, equal⟩ := inductionHypothesis
      refine ⟨back, ?_⟩
      rw [List.takeWhile_cons_of_pos (by simpa using semicolon), List.cons_append, equal]
      rfl

/-- What a condition would assert starts like a locator, so that it is not the word for true. -/
theorem asserted_ne_true {target : Target} {passed : Text}
    (closed : beforeParenthesis? ((target.text ++ "))").takeWhile (· ≠ ';')) = some passed) :
    passed ≠ [] ∧ Text.trim passed ≠ "true" := by
  obtain ⟨front, starts⟩ : ∃ front, (target.text ++ "))").takeWhile (· ≠ ';') = 'B' :: front :=
    ⟨_, rfl⟩
  rw [starts] at closed
  by_cases blank : Text.isAllBlank front = true
  · rw [beforeParenthesis?_cons_of_blank blank] at closed
    cases closed
  · rw [beforeParenthesis?_cons_of_not_blank blank] at closed
    obtain ⟨further, _, rfl⟩ := Option.map_eq_some_iff.mp closed
    refine ⟨List.cons_ne_nil _ _, ?_⟩
    have notBlank : ¬ (Text.isAllBlank further = true ∧ Text.isBlank 'B' = true) := fun both =>
      absurd both.2 (by decide)
    rw [Text.trim, Text.dropBlanks_cons rfl, Text.trimRight_cons, if_neg notBlank]
    exact fun equal => absurd (List.cons.inj equal).1 (by decide)

/-- The constructs that assert an expression, and what they make of it. -/
inductive Asserts : Construct → (Text → Action) → Prop
  | assertTrue : Asserts .assertTrue .assertTrue
  | assertFalse : Asserts .assertFalse .assertFalse

variable {construct : Construct} {action : Text → Action}

theorem Asserts.read_of_none (asserts : Asserts construct action) {text : Text}
    (read : readStatement construct.anchor text = none) (before : Option Char) :
    construct.read before text = none := by
  cases asserts with
  | assertTrue => exact congrArg (Option.map _) read
  | assertFalse => exact congrArg (Option.map _) read

theorem Asserts.read_of_some (asserts : Asserts construct action) {text expression rest : Text}
    (read : readStatement construct.anchor text = some (expression, rest))
    (notTrue : expression ≠ "true") (before : Option Char) :
    construct.read before text = some (some (action expression), rest) := by
  cases asserts with
  | assertTrue =>
    refine (congrArg (Option.map _) read).trans ?_
    exact congrArg some (Prod.ext (if_neg notTrue) rfl)
  | assertFalse => exact congrArg (Option.map _) read

theorem Asserts.isStrangeTo (asserts : Asserts construct action) :
    construct.isStrangeTo "wait.until(ExpectedConditions." = true := by
  cases asserts <;> rfl

/-- The last part of a condition statement is quiet. -/
theorem quiet_condition_end (construct : Construct) {target : Target}
    (noOpening : '(' ∉ target.value) (rest : Text) :
    Quiet construct (target.text ++ "));") rest := by
  have closing : construct.isStrangeTo "));" = true := by
    cases construct <;> rfl
  exact (quiet_target construct noOpening _).append (quiet_of_code closing rest)

/-- A condition whose name ends like an assertion is found as one, behind its first part. -/
theorem Asserts.yields (asserts : Asserts construct action) {condition : Text} {target : Target}
    (wellFormed : (Statement.waitUntil condition target).WellFormed) (before : Option Char)
    (rest : Text) :
    Yields construct before (Statement.waitUntil condition target).text rest
      (if construct.anchor <:+ condition then
        ((assertedExpression? target).map fun expression =>
          (30 + (condition.length - construct.anchor.length), action expression)).toList
      else []) := by
  obtain ⟨⟨_, word⟩, noOpening⟩ := wellFormed
  have isWord := List.all_eq_true.mp word
  obtain ⟨back, split⟩ := exists_append_semicolon (target.text ++ "))")
  have noSemicolon : ';' ∉ (target.text ++ "))").takeWhile (· ≠ ';') := fun member => by
    simpa using List.mem_takeWhile_imp member
  rw [assertedExpression?]
  generalize inside : (target.text ++ "))").takeWhile (· ≠ ';') = argument at split noSemicolon
  have written : target.text ++ "));" = argument ++ ';' :: back := by
    rw [← split, List.append_assoc]
    rfl
  have read := readStatement_append construct.anchor noSemicolon (back ++ rest)
  have quietEnd := quiet_condition_end construct noOpening rest
  -- Where the word of the construct is not read at the end of the condition, nothing is.
  have quietUnless (miss : construct.anchor <:+ condition → ∀ before,
      construct.read before (construct.anchor ++ '(' :: (target.text ++ "));" ++ rest)) = none) :
      Yields construct before (Statement.waitUntil condition target).text rest [] := by
    have opening : construct.isStrangeTo "(" = true := by
      cases asserts <;> rfl
    have quiet : Quiet construct (condition ++ ("(" ++ (target.text ++ "));"))) rest :=
      (quiet_word isWord miss).append ((quiet_of_code opening _).append quietEnd)
    exact ((quiet_of_code asserts.isStrangeTo _).append quiet).yields before
  by_cases ends : construct.anchor <:+ condition
  · rw [if_pos ends]
    cases closed : beforeParenthesis? argument with
    | none =>
      refine quietUnless fun _ before => asserts.read_of_none ?_ before
      rw [closed] at read
      rw [written, List.append_assoc]
      exact read
    | some passed =>
      obtain ⟨notEmpty, notTrue⟩ := asserted_ne_true (inside ▸ closed)
      obtain ⟨front, rfl⟩ := ends
      have text : (Statement.waitUntil (front ++ construct.anchor) target).text =
          "wait.until(ExpectedConditions." ++ front ++
            (construct.anchor ++ ("(" ++ (argument ++ [';'])) ++ back) := by
        show "wait.until(ExpectedConditions." ++
          (front ++ construct.anchor ++ ("(" ++ (target.text ++ "));"))) = _
        rw [written]
        simp only [List.append_assoc]
        rfl
      have position : 30 + ((front ++ construct.anchor).length - construct.anchor.length) =
          ("wait.until(ExpectedConditions." ++ front).length := by
        rw [List.length_append, Nat.add_sub_cancel, List.length_append]
        rfl
      rw [text, position]
      refine yields_call ?_ ?_ ?_ ?_
      · cases asserts <;> exact List.cons_ne_nil _ _
      · refine (quiet_of_code asserts.isStrangeTo _).append ?_
        rw [List.append_assoc]
        exact quiet_word_before construct
          (fun char member => isWord char (List.mem_append_left _ member)) _
      · rw [closed, Option.filter_some_pos (by simpa using notEmpty)] at read
        simp only [List.append_assoc]
        exact asserts.read_of_some read notTrue _
      · rw [written, ← List.singleton_append, ← List.append_assoc] at quietEnd
        exact quietEnd.of_append
  · rw [if_neg ends]
    exact quietUnless fun isEnd => absurd isEnd ends

/-- An assertion is found in a condition whose name ends like one, as far from its start as the rest
of the name is long. -/
theorem Asserts.foundBy_findings (asserts : Asserts construct action) (condition : Text)
    (target : Target) :
    foundBy construct (Statement.waitUntil condition target).findings =
      if construct.anchor <:+ condition then
        ((assertedExpression? target).map fun expression =>
          (30 + (condition.length - construct.anchor.length), action expression)).toList
      else [] := by
  rw [Statement.findings]
  by_cases isTrue : Construct.assertTrue.anchor <:+ condition
  · rw [assertion?_of_assertTrue isTrue]
    cases asserts with
    | assertTrue =>
      rw [if_pos isTrue]
      cases assertedExpression? target <;> rfl
    | assertFalse =>
      have notFalse : ¬ Construct.assertFalse.anchor <:+ condition := not_both_assertions isTrue
      rw [if_neg notFalse]
      cases assertedExpression? target <;> rfl
  · by_cases isFalse : Construct.assertFalse.anchor <:+ condition
    · rw [assertion?_of_assertFalse isFalse]
      cases asserts with
      | assertTrue =>
        rw [if_neg isTrue]
        cases assertedExpression? target <;> rfl
      | assertFalse =>
        rw [if_pos isFalse]
        cases assertedExpression? target <;> rfl
    · rw [assertion?_of_neither isTrue isFalse]
      cases asserts with
      | assertTrue =>
        rw [if_neg isTrue]
        rfl
      | assertFalse =>
        rw [if_neg isFalse]
        rfl

/-- What a condition is taken for beside itself is an assertion. -/
theorem foundBy_waitUntil {construct : Construct} (notTrue : construct ≠ .assertTrue)
    (notFalse : construct ≠ .assertFalse) (condition : Text) (target : Target) :
    foundBy construct (Statement.waitUntil condition target).findings =
      foundBy construct [⟨.wait, 11, .wait target.selector (some condition)⟩] := by
  rw [Statement.findings]
  by_cases isTrue : ("assertTrue" : Text) <:+ condition
  · rw [assertion?_of_assertTrue isTrue]
    cases assertedExpression? target with
    | none => rfl
    | some expression =>
      show foundBy construct ([_] ++ [⟨.assertTrue, _, _⟩]) = _
      rw [foundBy_append, foundBy_of_ne (Ne.symm notTrue), List.append_nil]
  · by_cases isFalse : ("assertFalse" : Text) <:+ condition
    · rw [assertion?_of_assertFalse isFalse]
      cases assertedExpression? target with
      | none => rfl
      | some expression =>
        show foundBy construct ([_] ++ [⟨.assertFalse, _, _⟩]) = _
        rw [foundBy_append, foundBy_of_ne (Ne.symm notFalse), List.append_nil]
    · rw [assertion?_of_neither isTrue isFalse]
      rfl

/-- Only the constructs for waiting and for assertions find anything where a test waits. -/
theorem quiet_waitUntil {construct : Construct} (notWait : construct ≠ .wait)
    (notTrue : construct ≠ .assertTrue) (notFalse : construct ≠ .assertFalse) {condition : Text}
    {target : Target} (wellFormed : (Statement.waitUntil condition target).WellFormed)
    (rest : Text) : Quiet construct (Statement.waitUntil condition target).text rest := by
  obtain ⟨⟨_, word⟩, noOpening⟩ := wellFormed
  have isWord := List.all_eq_true.mp word
  have opening : construct.isStrangeTo "wait.until(ExpectedConditions." = true := by
    cases construct with
    | wait => exact absurd rfl notWait
    | _ => rfl
  have parenthesis : construct.isStrangeTo "(" = true := by
    cases construct <;> rfl
  have miss (before : Option Char) :
      construct.read before (construct.anchor ++ '(' :: (target.text ++ "));" ++ rest)) = none := by
    rw [List.append_assoc]
    exact Construct.read_called_on_target notTrue notFalse before target _
  have quiet : Quiet construct (condition ++ ("(" ++ (target.text ++ "));"))) rest :=
    (quiet_word isWord fun _ => miss).append
      ((quiet_of_code parenthesis _).append (quiet_condition_end construct noOpening rest))
  exact (quiet_of_code opening _).append quiet

theorem yields_waitUntil {condition : Text} {target : Target}
    (wellFormed : (Statement.waitUntil condition target).WellFormed) (construct : Construct)
    (before : Option Char) (rest : Text) :
    Yields construct before (Statement.waitUntil condition target).text rest
      (foundBy construct (Statement.waitUntil condition target).findings) := by
  rcases eq_or_ne construct .assertTrue with rfl | notTrue
  · rw [Asserts.assertTrue.foundBy_findings]
    exact Asserts.assertTrue.yields wellFormed before rest
  rcases eq_or_ne construct .assertFalse with rfl | notFalse
  · rw [Asserts.assertFalse.foundBy_findings]
    exact Asserts.assertFalse.yields wellFormed before rest
  rw [foundBy_waitUntil notTrue notFalse]
  rcases eq_or_ne construct .wait with rfl | notWait
  · obtain ⟨⟨notEmpty, word⟩, _⟩ := wellFormed
    have read := readWait_condition notEmpty (List.all_eq_true.mp word) target (");" ++ rest)
    have written : (Statement.waitUntil condition target).text =
        "wait.until(" ++ ("ExpectedConditions." ++ (condition ++ ("(" ++ (target.text ++ ")"))) ++
          ");") := by
      simp only [List.append_assoc]
      rfl
    rw [foundBy_self, written]
    refine yields_call (List.cons_ne_nil _ _) (quiet_of_code rfl _) ?_ (quiet_of_code rfl rest)
    simp only [List.append_assoc]
    exact congrArg (Option.map _) read
  · rw [foundBy_of_ne (Ne.symm notWait)]
    exact (quiet_waitUntil notWait notTrue notFalse wellFormed rest).yields before

/-! ### Every statement -/

/-- A search finds in a printed statement what the statement holds for it, and goes on behind. -/
theorem yields_statement {statement : Statement} (wellFormed : statement.WellFormed)
    (construct : Construct) {before : Option Char} (apart : before.any Text.isWord = false)
    (rest : Text) :
    Yields construct before statement.text rest (foundBy construct statement.findings) := by
  cases statement with
  | openPage url => exact yields_openPage wellFormed construct apart rest
  | onElement target call => exact yields_onElement wellFormed construct before rest
  | waitUntil condition target => exact yields_waitUntil wellFormed construct before rest
  | count target => exact yields_count wellFormed construct before rest
  | compareText expected target => exact yields_compareText wellFormed construct before rest

end BrowserPlan
