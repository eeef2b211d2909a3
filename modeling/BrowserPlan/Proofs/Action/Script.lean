/-
This file writes the statements of a test from what they are to do.

There are five forms of statements. Each is printed with the values as literals, and each stands
for the actions that it was written for. A body is printed with one statement to a line. As no
statement holds a slash or an apostrophe outside of its literals, nothing in a printed body is
taken for a comment.
-/

import BrowserPlan.Action.Recognizer
import BrowserPlan.Proofs.Action.Locator

namespace BrowserPlan

/-! ### Statements -/

/-- An element as a test points to it: by a kind of locator and a value. -/
structure Target where
  kind : LocatorKind
  value : Text
  deriving DecidableEq, Repr

namespace Target

/-- The selector of the element. -/
def selector (target : Target) : Text :=
  target.kind.selector target.value

/-- The locator as it is written. -/
def text (target : Target) : Text :=
  "By." ++ (target.kind.word ++ ("(" ++ (Java.literal target.value ++ ")")))

/-- The look-up of the element as it is written. -/
def lookup (target : Target) : Text :=
  "findElement(" ++ (target.text ++ ")")

/-- What is printed is a locator without blanks. -/
theorem text_eq (target : Target) :
    target.text = Locator.text ⟨target.kind.word, Java.escape target.value⟩ .none :=
  rfl

/-- A printed locator means the selector of its element. -/
theorem meaning_eq (target : Target) :
    Locator.meaning ⟨target.kind.word, Java.escape target.value⟩ .none = target.selector := by
  rw [Locator.meaning, Locator.selector?_word, Option.getD_some, Java.unescape_escape]
  rfl

theorem wellFormed (target : Target) :
    Locator.WellFormed ⟨target.kind.word, Java.escape target.value⟩ :=
  target.kind.wellFormed_word (Java.isContents_escape target.value)

theorem text_append (target : Target) (rest : Text) :
    target.text ++ rest =
      "By." ++ (target.kind.word ++ ("(" ++ (Java.literal target.value ++ (")" ++ rest)))) := by
  show "By." ++ (target.kind.word ++ ("(" ++ (Java.literal target.value ++ ")"))) ++ rest = _
  simp only [List.append_assoc]

theorem lookup_append (target : Target) (rest : Text) :
    target.lookup ++ rest = "findElement" ++ ("(" ++ (target.text ++ (")" ++ rest))) := by
  have split : ("findElement(" : Text) = "findElement" ++ ("(" : Text) := rfl
  show "findElement(" ++ (target.text ++ ")") ++ rest = _
  simp only [split, List.append_assoc]

end Target

/-- What is done to one element. -/
inductive ElementCall where
  | sendKeys (value : Text)
  | clear
  | click
  | getText
  deriving DecidableEq, Repr

namespace ElementCall

/-- The action on the element with the given selector. -/
def action (selector : Text) : ElementCall → Action
  | .sendKeys value => .fill selector value
  | .clear => .clear selector
  | .click => .click selector
  | .getText => .getText selector

/-- The call as it is written behind the element. -/
def text : ElementCall → Text
  | .sendKeys value => ".sendKeys(" ++ (Java.literal value ++ ")")
  | .clear => ".clear()"
  | .click => ".click()"
  | .getText => ".getText()"

theorem sendKeys_append (value rest : Text) :
    (sendKeys value).text ++ rest = ".sendKeys(" ++ (Java.literal value ++ (")" ++ rest)) := by
  show ".sendKeys(" ++ (Java.literal value ++ ")") ++ rest = _
  simp only [List.append_assoc]

end ElementCall

/-- A statement of a test. -/
inductive Statement where
  | openPage (url : Text)
  | onElement (target : Target) (call : ElementCall)
  | waitUntil (condition : Text) (target : Target)
  | count (target : Target)
  | compareText (expected : Text) (target : Target)
  deriving DecidableEq, Repr

/-! ### Conditions that are taken for assertions -/

/-- What stands before the closing parenthesis in which a text ends, blanks behind it aside. -/
def beforeParenthesis? (text : Text) : Option Text :=
  if (Text.trimRight text).getLast? = some ')' then some (Text.trimRight text).dropLast else none

/-- The expression that a condition on an element would assert: what stands in its parentheses,
up to the first semicolon. -/
def assertedExpression? (target : Target) : Option Text :=
  (beforeParenthesis? ((target.text ++ "))").takeWhile (· ≠ ';'))).map Text.trim

/-- The assertion for which a condition is taken as well, going by the end of its name. -/
def assertion? (condition : Text) (target : Target) : Option (Construct × Action) :=
  if ("assertTrue" : Text) <:+ condition then
    (assertedExpression? target).map fun expression => (.assertTrue, .assertTrue expression)
  else if ("assertFalse" : Text) <:+ condition then
    (assertedExpression? target).map fun expression => (.assertFalse, .assertFalse expression)
  else none

/-- No word ends like both assertions. -/
theorem not_both_assertions {condition : Text} (isTrue : ("assertTrue" : Text) <:+ condition) :
    ¬ ("assertFalse" : Text) <:+ condition := by
  intro isFalse
  rcases List.suffix_or_suffix_of_suffix isTrue isFalse with suffix | suffix
  · exact absurd (List.isSuffixOf_iff_suffix.mpr suffix) (by decide)
  · exact absurd (List.isSuffixOf_iff_suffix.mpr suffix) (by decide)

theorem assertion?_of_assertTrue {condition : Text}
    (isTrue : ("assertTrue" : Text) <:+ condition) (target : Target) :
    assertion? condition target =
      (assertedExpression? target).map fun expression =>
        (.assertTrue, .assertTrue expression) :=
  if_pos isTrue

theorem assertion?_of_assertFalse {condition : Text}
    (isFalse : ("assertFalse" : Text) <:+ condition) (target : Target) :
    assertion? condition target =
      (assertedExpression? target).map fun expression =>
        (.assertFalse, .assertFalse expression) :=
  (if_neg fun isTrue => not_both_assertions isTrue isFalse).trans (if_pos isFalse)

theorem assertion?_of_neither {condition : Text}
    (notTrue : ¬ ("assertTrue" : Text) <:+ condition)
    (notFalse : ¬ ("assertFalse" : Text) <:+ condition) (target : Target) :
    assertion? condition target = none :=
  (if_neg notTrue).trans (if_neg notFalse)

namespace Statement

/-- The actions that a statement stands for. -/
def actions : Statement → List Action
  | .openPage url => [.navigate url]
  | .onElement target call => [call.action target.selector]
  | .waitUntil condition target => [.wait target.selector (some condition)]
  | .count target => [.countElements target.selector]
  | .compareText expected target =>
      [.assertText target.selector expected, .getText target.selector]

/-- The actions that are recognised in a statement. -/
def recognised : Statement → List Action
  | .waitUntil condition target =>
      .wait target.selector (some condition) :: ((assertion? condition target).map Prod.snd).toList
  | statement => statement.actions

/-- A statement as it is written. -/
def text : Statement → Text
  | .openPage url => "driver.get(" ++ (Java.literal url ++ ");")
  | .onElement target call => "driver." ++ (target.lookup ++ (call.text ++ ";"))
  | .waitUntil condition target =>
      "wait.until(ExpectedConditions." ++ (condition ++ ("(" ++ (target.text ++ "));")))
  | .count target => "driver.findElements(" ++ (target.text ++ ").size();")
  | .compareText expected target =>
      "assertEquals(" ++
        (Java.literal expected ++ (", driver." ++ (target.lookup ++ ".getText());")))

/-- No value holds an opening parenthesis, the values that are passed on hold no semicolon, and
a condition is a word. -/
def WellFormed : Statement → Prop
  | .openPage url => '(' ∉ url ∧ ';' ∉ url
  | .onElement target (.sendKeys value) => '(' ∉ target.value ∧ '(' ∉ value ∧ ';' ∉ value
  | .onElement target _ => '(' ∉ target.value
  | .waitUntil condition target =>
      (condition ≠ [] ∧ condition.all Text.isWord = true) ∧ '(' ∉ target.value
  | .count target => '(' ∉ target.value
  | .compareText expected target => '(' ∉ expected ∧ '(' ∉ target.value

instance : DecidablePred WellFormed
  | .openPage url => inferInstanceAs (Decidable ('(' ∉ url ∧ ';' ∉ url))
  | .onElement target (.sendKeys value) =>
      inferInstanceAs (Decidable ('(' ∉ target.value ∧ '(' ∉ value ∧ ';' ∉ value))
  | .onElement target .clear => inferInstanceAs (Decidable ('(' ∉ target.value))
  | .onElement target .click => inferInstanceAs (Decidable ('(' ∉ target.value))
  | .onElement target .getText => inferInstanceAs (Decidable ('(' ∉ target.value))
  | .waitUntil condition target =>
      inferInstanceAs (Decidable
        ((condition ≠ [] ∧ condition.all Text.isWord = true) ∧ '(' ∉ target.value))
  | .count target => inferInstanceAs (Decidable ('(' ∉ target.value))
  | .compareText expected target =>
      inferInstanceAs (Decidable ('(' ∉ expected ∧ '(' ∉ target.value))

/-- Whether a statement waits for a condition whose name ends like an assertion. -/
def EndsLikeAssertion : Statement → Prop
  | .waitUntil condition _ =>
      ("assertTrue" : Text) <:+ condition ∨ ("assertFalse" : Text) <:+ condition
  | _ => False

instance : DecidablePred EndsLikeAssertion
  | .waitUntil condition _ =>
      inferInstanceAs (Decidable
        (("assertTrue" : Text) <:+ condition ∨ ("assertFalse" : Text) <:+ condition))
  | .openPage _ | .onElement _ _ | .count _ | .compareText _ _ =>
      inferInstanceAs (Decidable False)

/-- What is recognised in a statement is what it means, unless its condition is named like an
assertion. -/
theorem recognised_eq_actions {statement : Statement} (plain : ¬ statement.EndsLikeAssertion) :
    statement.recognised = statement.actions := by
  cases statement with
  | waitUntil condition target =>
    obtain ⟨notTrue, notFalse⟩ := not_or.mp plain
    rw [recognised, assertion?_of_neither notTrue notFalse]
    rfl
  | openPage | onElement | count | compareText => rfl

end Statement

/-! ### Bodies -/

/-- Statements one to a line. -/
def lines (statements : List Statement) : Text :=
  statements.flatMap fun statement => statement.text ++ "\n"

/-- The body of a test method with the given statements. -/
def bodyOf (statements : List Statement) : Text :=
  "\x7b\n" ++ (lines statements ++ "\x7d")

theorem lines_cons (statement : Statement) (statements : List Statement) :
    lines (statement :: statements) = statement.text ++ ("\n" ++ lines statements) := by
  show statement.text ++ "\n" ++ lines statements = _
  rw [List.append_assoc]

/-! ### Nothing that is printed is a comment -/

open Java (Uncommented uncommented_code)

theorem uncommented_target (target : Target) : Uncommented target.text := by
  rw [target.text_eq]
  exact Locator.uncommented_text target.wellFormed.isWord target.value .none

theorem uncommented_lookup (target : Target) : Uncommented target.lookup := by
  have opening : Uncommented "findElement(" := uncommented_code rfl
  have closing : Uncommented ")" := uncommented_code rfl
  exact opening.append ((uncommented_target target).append closing)

theorem uncommented_call (call : ElementCall) : Uncommented call.text := by
  cases call with
  | sendKeys value =>
    have opening : Uncommented ".sendKeys(" := uncommented_code rfl
    have closing : Uncommented ")" := uncommented_code rfl
    exact opening.append (closing.literal_append rfl value)
  | clear | click | getText => exact uncommented_code rfl

/-- No comment opens in a statement: all marks are inside its literals. -/
theorem uncommented_statement {statement : Statement} (wellFormed : statement.WellFormed) :
    Uncommented statement.text := by
  cases statement with
  | openPage url =>
    have opening : Uncommented "driver.get(" := uncommented_code rfl
    have closing : Uncommented ");" := uncommented_code rfl
    exact opening.append (closing.literal_append rfl url)
  | onElement target call =>
    have driver : Uncommented "driver." := uncommented_code rfl
    have closing : Uncommented ";" := uncommented_code rfl
    exact driver.append ((uncommented_lookup target).append
      ((uncommented_call call).append closing))
  | waitUntil condition target =>
    have opening : Uncommented "wait.until(ExpectedConditions." := uncommented_code rfl
    have word : condition.all Java.isBare = true :=
      List.all_eq_true.mpr fun char member =>
        Java.isBare_of_isWord (List.all_eq_true.mp wellFormed.1.2 char member)
    have parenthesis : Uncommented "(" := uncommented_code rfl
    have closing : Uncommented "));" := uncommented_code rfl
    exact opening.append ((uncommented_code word).append
      (parenthesis.append ((uncommented_target target).append closing)))
  | count target =>
    have opening : Uncommented "driver.findElements(" := uncommented_code rfl
    have closing : Uncommented ").size();" := uncommented_code rfl
    exact opening.append ((uncommented_target target).append closing)
  | compareText expected target =>
    have opening : Uncommented "assertEquals(" := uncommented_code rfl
    have driver : Uncommented ", driver." := uncommented_code rfl
    have closing : Uncommented ".getText());" := uncommented_code rfl
    exact opening.append
      ((driver.append ((uncommented_lookup target).append closing)).literal_append rfl expected)

theorem uncommented_lines {statements : List Statement}
    (wellFormed : ∀ statement ∈ statements, statement.WellFormed) :
    Uncommented (lines statements) := by
  induction statements with
  | nil => exact uncommented_code rfl
  | cons statement statements inductionHypothesis =>
    have newline : Uncommented "\n" := uncommented_code rfl
    have further := inductionHypothesis fun other member =>
      wellFormed other (List.mem_cons_of_mem _ member)
    rw [lines_cons]
    exact (uncommented_statement (wellFormed statement List.mem_cons_self)).append
      (newline.append further)

/-- A printed body holds no comments. -/
theorem masked_bodyOf {statements : List Statement}
    (wellFormed : ∀ statement ∈ statements, statement.WellFormed) :
    Java.masked .commentsOnly (bodyOf statements) = bodyOf statements := by
  have opening : Uncommented "\x7b\n" := uncommented_code rfl
  have closing : Uncommented "\x7d" := uncommented_code rfl
  exact (opening.append ((uncommented_lines wellFormed).append closing)).masked_eq

end BrowserPlan
