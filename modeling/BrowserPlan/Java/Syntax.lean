/-
This file checks Java text for what every generated test class must have: balanced braces,
closed literals and comments, and the declarations and annotations of a browser test. All of
it is looked for in the masked text, so what is commented out does not count.

A complaint is either an error, which makes the text invalid, or a warning.
-/

import BrowserPlan.Java.TestMethod

namespace BrowserPlan.Java

/-! ### Complaints -/

/-- What makes a text invalid. -/
inductive SyntaxError where
  | strayClosing
  | unbalanced (depth : Int)
  | openAtEnd (region : Region)
  | cutOff (region : Region) (line : Nat)
  | noClass
  | noImport
  | noTests
  | noSetup
  | noTeardown
  | noDriver
  deriving DecidableEq, Repr

/-- What is doubtful about a text. -/
inductive SyntaxWarning where
  | fewTests (count : Nat) (expected : Int)
  | noWait
  | fixedSleep
  | dummyAssertion
  | emptyTests (count : Nat)
  deriving DecidableEq, Repr

/-- What is open in a region. -/
def Region.label : Region → Text
  | .code => "code"
  | .string => "string literal"
  | .char => "char literal"
  | .textBlock => "text block"
  | .lineComment => "line comment"
  | .blockComment => "block comment"

/-- An error in words. -/
def SyntaxError.message : SyntaxError → Text
  | .strayClosing => "Unbalanced braces: closing '\x7d' without matching '\x7b'"
  | .unbalanced depth => "Unbalanced braces: depth=" ++ Text.ofInt depth ++ " at end of file"
  | .openAtEnd region => "Unterminated " ++ region.label ++ " at end of file"
  | .cutOff region line => "Unterminated " ++ region.label ++ " at line " ++ Text.ofNat line
  | .noClass => "Missing: public class declaration"
  | .noImport => "Missing import: org.junit.jupiter.api.Test"
  | .noTests => "No @Test methods found"
  | .noSetup => "Missing @BeforeEach (WebDriver initialization)"
  | .noTeardown => "Missing @AfterEach (WebDriver teardown)"
  | .noDriver => "Missing: WebDriver (Selenium not used)"

/-- A warning in words. -/
def SyntaxWarning.message : SyntaxWarning → Text
  | .fewTests count expected =>
      "@Test count is " ++ Text.ofNat count ++ " (expected >= " ++ Text.ofInt expected ++ ")"
  | .noWait => "WebDriverWait not found; fixed sleep dependency suspected"
  | .fixedSleep => "Thread.sleep detected; use WebDriverWait instead"
  | .dummyAssertion => "assertTrue(true) found; possible dummy test"
  | .emptyTests count => Text.ofNat count ++ " empty @Test method(s) found"

/-! ### What is looked for -/

/-- Reads a word of the text at which no other word runs on into it. -/
def wordStart? (before : Option Char) (word text : Text) : Option Text :=
  if before.any Text.isWord then none else Text.after? word text

/-- Passes over the modifiers of a class. -/
def skipClassModifiers : (fuel : Nat) → Text → Text
  | 0, text => text
  | fuel + 1, text =>
      let next := (["final", "abstract"] : List Text).findSome? fun modifier =>
        (Text.after? modifier text).bind Text.dropSomeBlanks?
      match next with
      | some rest => skipClassModifiers fuel rest
      | none => text

/-- Recognises the declaration of a public class. -/
def classMark? (before : Option Char) (text : Text) : Option (Unit × Text) := do
  let text ← Text.dropSomeBlanks? (← wordStart? before "public" text)
  let text := skipClassModifiers text.length text
  let text ← Text.dropSomeBlanks? (← Text.after? "class" text)
  let (_, rest) ← Text.readWord? text
  return ((), rest)

/-- Recognises the driver as a word of its own. -/
def driverMark? (before : Option Char) (text : Text) : Option (Unit × Text) := do
  let rest ← wordStart? before "WebDriver" text
  if Text.atWordEnd rest then some ((), rest) else none

/-- Recognises a fixed sleep. -/
def sleepMark? (before : Option Char) (text : Text) : Option (Unit × Text) := do
  let text ← Text.after? "." (Text.dropBlanks (← wordStart? before "Thread" text))
  let rest ← Text.keyword? "sleep" (Text.dropBlanks text)
  return ((), rest)

/-- Recognises the assertion that what is true is true. -/
def dummyMark? (before : Option Char) (text : Text) : Option (Unit × Text) := do
  let text ← Text.after? "(" (Text.dropBlanks (← wordStart? before "assertTrue" text))
  let text ← Text.after? "true" (Text.dropBlanks text)
  let rest ← Text.after? ")" (Text.dropBlanks text)
  return ((), rest)

/-- The number of test annotations in a text. -/
def testCount (text : Text) : Nat :=
  Text.countAll testMark? text

/-- Whether nothing but comments and blanks stands between the braces of a body. -/
def isEmptyBody (body : Text) : Bool :=
  Text.isAllBlank ((masked .full body).drop 1).dropLast

/-- The number of closed test methods with nothing in them. -/
def emptyCount (text : Text) : Nat :=
  (segments text).countP fun segment => segment.terminated && isEmptyBody segment.body

/-! ### The check -/

/-- What a check finds out. -/
structure SyntaxReport where
  testCount : Nat
  errors : List SyntaxError
  warnings : List SyntaxWarning
  deriving DecidableEq, Repr

/-- Lists a complaint if its condition holds. -/
def complain {Complaint : Type} (condition : Bool) (complaint : Complaint) : List Complaint :=
  if condition then [complaint] else []

/-- The errors of braces, literals and comments. -/
def balanceErrors (scan : Scan) : List SyntaxError :=
  complain (scan.lowest < 0) .strayClosing ++
    complain (scan.depth ≠ 0) (.unbalanced scan.depth) ++
    complain (scan.openRegion ≠ .code) (.openAtEnd scan.openRegion) ++
    scan.cutOff.map fun (region, line) => .cutOff region line

/-- The errors of declarations that are missing from masked text. -/
def presenceErrors (masked : Text) : List SyntaxError :=
  complain (!Text.foundAnywhere classMark? masked) .noClass ++
    complain (!Text.holds "org.junit.jupiter.api.Test" masked) .noImport ++
    complain (testCount masked = 0) .noTests ++
    complain (!Text.holds "@BeforeEach" masked) .noSetup ++
    complain (!Text.holds "@AfterEach" masked) .noTeardown ++
    complain (!Text.foundAnywhere driverMark? masked) .noDriver

/-- Checks a text that should have at least `expected` tests. -/
def checkSyntax (text : Text) (expected : Int) : SyntaxReport :=
  let scan := scan .full text
  let count := testCount scan.masked
  let empty := emptyCount text
  { testCount := count
    errors := balanceErrors scan ++ presenceErrors scan.masked
    warnings :=
      complain (count ≠ 0 && (count : Int) < expected) (.fewTests count expected) ++
        complain (!Text.holds "WebDriverWait" scan.masked) .noWait ++
        complain (Text.foundAnywhere sleepMark? scan.masked) .fixedSleep ++
        complain (Text.foundAnywhere dummyMark? scan.masked) .dummyAssertion ++
        complain (empty ≠ 0) (.emptyTests empty) }

/-- A text is valid if it has no errors. -/
def SyntaxReport.valid (report : SyntaxReport) : Bool :=
  report.errors.isEmpty

end BrowserPlan.Java
