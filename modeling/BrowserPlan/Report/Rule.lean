/-
This file holds the rules that count: how many cases a report needs, how many of each
category, that no number occurs twice, and what the implementation must hold.

The rules see of a case only its number and its category.
-/

import BrowserPlan.Java.Syntax
import BrowserPlan.Report.Case

namespace BrowserPlan.Report

open Java (complain)

/-! ### What is required -/

/-- The least number of cases of a report. -/
def leastCases : Nat := 15

/-- The least number of cases of each category. -/
def leastPerCategory : Nat := 3

/-- The least number of tests in the Java text of a report. -/
def leastTests : Int := 3

/-- What the Java text of a report must hold. -/
def requiredSnippets : List Text :=
  ["org.junit.jupiter", "WebDriver", "WebDriverWait", "@BeforeEach", "@AfterEach", "@Test"]

/-! ### Broken rules -/

/-- A rule that is broken. -/
inductive RuleError (Id Count : Type) where
  | fewCases (count : Nat)
  | fewInCategory (category : Category) (count : Nat)
  | duplicate (id : Id)
  | missingSnippets (snippets : List Text)
  | fewTests (count : Count)
  deriving DecidableEq, Repr

/-- A broken rule in words, given how a number of a case and a count of tests are written. -/
def RuleError.message {Id Count : Type} (name : Id → Text) (countText : Count → Text) :
    RuleError Id Count → Text
  | .fewCases count =>
      "Test case count too low: " ++ Text.ofNat count ++ " (expected >= " ++
        Text.ofNat leastCases ++ ")"
  | .fewInCategory category count =>
      "Category \"" ++ category.word ++ "\" too few: " ++ Text.ofNat count ++ " (expected >= " ++
        Text.ofNat leastPerCategory ++ ")"
  | .duplicate id => "Duplicate test case id found: " ++ name id
  | .missingSnippets snippets => "Missing required Java snippets: " ++ Text.join ", " snippets
  | .fewTests count =>
      "Too few @Test methods: " ++ countText count ++ " (expected >= " ++ Text.ofInt leastTests ++
        ")"

/-! ### Counting -/

/-- What the rules see of a case. -/
structure CaseEntry (Id : Type) where
  id : Id
  category? : Option Category
  deriving DecidableEq, Repr

/-- What the rules ask of a case. -/
def Case.entry (case : Case) : CaseEntry Text :=
  { id := case.id, category? := case.category? }

/-- The numbers that occurred before, in order, given what those already seen are compared by. -/
def repeated {Id Key : Type} [DecidableEq Key] (key : Id → Key) (seen : List Key) :
    List Id → List Id
  | [] => []
  | id :: ids =>
      if key id ∈ seen then id :: repeated key seen ids else repeated key (key id :: seen) ids

/-- How many cases of each category have been met, in the order in which the categories are
told. -/
abbrev Tally :=
  List (Category × Nat)

/-- Before the first case. -/
def Tally.start : Tally :=
  Category.all.map fun category => (category, 0)

/-- One more of a category. -/
def Tally.bump (tally : Tally) (category : Category) : Tally :=
  tally.map fun (other, count) => if other = category then (other, count + 1) else (other, count)

/-- A case is counted under its category, if it has one. -/
def Tally.count {Id : Type} (tally : Tally) (entry : CaseEntry Id) : Tally :=
  match entry.category? with
  | none => tally
  | some category => tally.bump category

/-- Counts the cases one after another. -/
def tallyOf {Id : Type} (entries : List (CaseEntry Id)) : Tally :=
  entries.foldl Tally.count .start

/-- The rules that a report breaks, given what the numbers of its cases are compared by and
which counts of tests are too low. -/
def ruleErrors {Id Key Count : Type} [DecidableEq Key] (key : Id → Key)
    (isFew : Count → Bool)
    (entries : List (CaseEntry Id)) (code : Text) (testCount : Count) :
    List (RuleError Id Count) :=
  let missing := requiredSnippets.filter fun snippet => !Text.holds snippet code
  complain (entries.length < leastCases) (.fewCases entries.length) ++
    (tallyOf entries).flatMap (fun (category, count) =>
      complain (count < leastPerCategory) (.fewInCategory category count)) ++
    (repeated key [] (entries.map CaseEntry.id)).map .duplicate ++
    complain (!missing.isEmpty) (.missingSnippets missing) ++
    complain (isFew testCount) (.fewTests testCount)

end BrowserPlan.Report
