/-
This file proves what a script that counts elements asks the page.

Its text arrives as it was given, whatever characters it holds. But when the script is made the kind
of the locator is no longer known, and the opening of the selector alone tells a path from a CSS
selector. So a text of a link is asked for as if it were a CSS selector, and a CSS selector or a tag
that opens like a path as a path. All the other selectors are asked for as what they are.
-/

import BrowserPlan.Plan.Lowering
import BrowserPlan.Proofs.Action.Description
import BrowserPlan.Proofs.Json.String

namespace BrowserPlan

/-! ### What a script asks -/

/-- The ways to ask the page: for the nodes at a path, or for the elements of a CSS selector. -/
inductive Method where
  | path
  | css
  deriving DecidableEq, Repr

/-- What stands around the literal in a script that counts what is asked for. -/
def Method.frame : Method → Frame
  | .path =>
      ⟨"() => document.evaluate(",
        ", document, null, XPathResult.ORDERED_NODE_SNAPSHOT_TYPE, null).snapshotLength"⟩
  | .css => ⟨"() => document.querySelectorAll(", ").length"⟩

/-- The two frames differ in the name of the method. -/
theorem Method.eq_of_around_eq {first second : Method} {literal other : Text}
    (same : first.frame.around literal = second.frame.around other) : first = second := by
  have letter : (first.frame.around literal)[15]? = (second.frame.around other)[15]? :=
    congrArg (fun script : Text => script[15]?) same
  cases first with
  | path => cases second with
    | path => rfl
    | css => exact absurd (show some 'e' = some 'q' from letter) (by decide)
  | css => cases second with
    | path => exact absurd (show some 'q' = some 'e' from letter) (by decide)
    | css => rfl

/-- A question to the page. -/
structure Query where
  method : Method
  text : Text
  deriving DecidableEq, Repr

namespace Query

/-- Whether a script counts the answers to a question: in the frame of its method it holds a literal
that is read as its text. -/
def IsAskedBy (query : Query) (script : Text) : Prop :=
  ∃ literal, script = query.method.frame.around literal ∧
    Json.parse literal = .ok (.string query.text)

/-- A script asks no more than one question. -/
theorem IsAskedBy.unique {first second : Query} {script : Text} (isFirst : first.IsAskedBy script)
    (isSecond : second.IsAskedBy script) : first = second := by
  obtain ⟨method, text⟩ := first
  obtain ⟨other, otherText⟩ := second
  obtain ⟨literal, rfl, read⟩ := isFirst
  obtain ⟨otherLiteral, same, readOther⟩ := isSecond
  obtain rfl := Method.eq_of_around_eq same
  obtain rfl := List.append_cancel_right (List.append_cancel_left same)
  rw [readOther] at read
  cases read
  rfl

/-- The question that is asked for a selector. -/
def ofSelector (selector : Text) : Query :=
  match Text.after? "xpath=" selector with
  | some path => ⟨.path, path⟩
  | none => ⟨.css, selector⟩

theorem ofSelector_of_isPrefix (path : Text) : ofSelector ("xpath=" ++ path) = ⟨.path, path⟩ := by
  rw [ofSelector, Text.after?_append]

theorem ofSelector_of_not_isPrefix {selector : Text} (other : ¬ ("xpath=" : Text) <+: selector) :
    ofSelector selector = ⟨.css, selector⟩ := by
  rw [ofSelector]
  split
  · rename_i path found
    exact absurd ⟨path, (Text.after?_eq_some_iff.mp found).symm⟩ other
  · rfl

/-- The text of a question arrives as it is, if no halves are joined in it. -/
theorem isAskedBy_countScript_iff {selector : Text} (whole : Text.joinHalves selector = selector)
    (query : Query) : query.IsAskedBy (countScript selector) ↔ query = ofSelector selector := by
  have asked : (ofSelector selector).IsAskedBy (countScript selector) := by
    unfold ofSelector countScript
    cases found : Text.after? "xpath=" selector with
    | some path =>
      rw [Text.after?_eq_some_iff.mp found,
        Text.joinHalves_append_left (Text.holdsNoHalf_of_ascii rfl)] at whole
      exact ⟨Json.printAsciiString path, List.append_assoc _ _ _,
        (Json.parse_printAsciiString_eq_iff path).mpr (List.append_cancel_left whole)⟩
    | none =>
      exact ⟨Json.printAsciiString selector, List.append_assoc _ _ _,
        (Json.parse_printAsciiString_eq_iff selector).mpr whole⟩
  constructor
  · exact fun isAsked => isAsked.unique asked
  · rintro rfl
    exact asked

end Query

/-! ### What the kinds of locators ask for -/

/-- The question that a locator stands for. A text of a link is neither a path nor a CSS
selector. -/
def LocatorKind.query? (kind : LocatorKind) (value : Text) : Option Query :=
  match kind with
  | .xpath => some ⟨.path, value⟩
  | .linkText => none
  | .id | .name | .cssSelector | .className | .tagName => some ⟨.css, kind.selector value⟩

/-- Whether the value of a locator is a selector as it stands and opens like a path. -/
def Target.OpensLikePath (target : Target) : Prop :=
  (target.kind = .cssSelector ∨ target.kind = .tagName) ∧ ("xpath=" : Text) <+: target.value

namespace Target

variable {target : Target}

theorem joinHalves_selector (whole : Text.joinHalves target.value = target.value) :
    Text.joinHalves target.selector = target.selector := by
  have opening : Text.HoldsNoHalf target.kind.opening := by
    cases target.kind <;> exact Text.holdsNoHalf_of_ascii rfl
  have ending : Text.HoldsNoHalf target.kind.ending := by
    cases target.kind <;> exact Text.holdsNoHalf_of_ascii rfl
  rw [selector, LocatorKind.selector_eq, Text.joinHalves_append_left opening,
    Text.joinHalves_append_right ending, whole]

/-- The question that is asked is the one that the locator stands for, unless that is none or the
value opens like a path. -/
theorem ofSelector_mem_query?_iff (target : Target) :
    Query.ofSelector target.selector ∈ target.kind.query? target.value ↔
      target.kind ≠ .linkText ∧ ¬ target.OpensLikePath := by
  obtain ⟨kind, value⟩ := target
  have bare : Query.ofSelector value ∈ some (Query.mk .css value) ↔
      ¬ ("xpath=" : Text) <+: value := by
    by_cases opens : ("xpath=" : Text) <+: value
    · obtain ⟨path, rfl⟩ := opens
      rw [Query.ofSelector_of_isPrefix]
      simp
    · rw [Query.ofSelector_of_not_isPrefix opens]
      exact iff_of_true rfl opens
  cases kind with
  | id | name | className => exact iff_of_true rfl (by simp [OpensLikePath])
  | xpath =>
    refine iff_of_true ?_ (by simp [OpensLikePath])
    exact congrArg some (Query.ofSelector_of_isPrefix value).symm
  | linkText => simp [LocatorKind.query?]
  | cssSelector | tagName => exact bare.trans (by simp [OpensLikePath])

end Target

/-- The script that counts the elements of a locator asks what the locator stands for, with a
literal that is read as just the text that is asked for, unless the locator is one by the text of a
link or opens like a path. Then it asks for the text of the link as a CSS selector, and for what
comes behind the opening as a path. The text must be one that a printed literal can hold, that is,
one in which no halves are to be joined. -/
theorem count_asks_iff (target : Target) (whole : Text.joinHalves target.value = target.value)
    (plan : PlanTarget) (view : PageView) :
    ∃ step script, lower plan view (.countElements (Locator.normalize target.text)) =
        (view, [step]) ∧ step.instruction = .evaluate script ∧
      ((∃ query ∈ target.kind.query? target.value, query.IsAskedBy script) ↔
        target.kind ≠ .linkText ∧ ¬ target.OpensLikePath) ∧
      (target.kind = .linkText →
        Query.IsAskedBy ⟨.css, "text=\"" ++ (target.value ++ "\"")⟩ script) ∧
      (∀ path, target.OpensLikePath → target.value = "xpath=" ++ path →
        Query.IsAskedBy ⟨.path, path⟩ script) := by
  have asked := Query.isAskedBy_countScript_iff (Target.joinHalves_selector whole)
  refine ⟨_, countScript target.selector, rfl, ?_, ?_, ?_, ?_⟩
  · rw [target.normalize_text]
  · rw [← target.ofSelector_mem_query?_iff]
    simp only [asked, exists_eq_right]
  · intro isLinkText
    rw [asked, Target.selector, isLinkText]
    rfl
  · intro path opens starts
    obtain ⟨kinds, _⟩ := opens
    have same : target.selector = "xpath=" ++ path := by
      rw [← starts]
      rcases kinds with css | tag
      · rw [Target.selector, css]
        rfl
      · rw [Target.selector, tag]
        rfl
    rw [asked, same, Query.ofSelector_of_isPrefix]

/-- An element by a name that takes escapes: a quote, a backslash, a newline, half of a pair, and
characters of one unit and of two. -/
def oddlyNamed : Target :=
  ⟨.name, ['a', '"', '\\', '\n', Text.ofHalf 0xd83d, 'é', '😀']⟩

/-- A name with a quote and a backslash is asked for as a selector. -/
theorem count_asks_iff_oddlyNamed :
    Text.joinHalves oddlyNamed.value = oddlyNamed.value ∧
      ∃ step script, lower ⟨"", 2⟩ {} (.countElements (Locator.normalize oddlyNamed.text)) =
          ({}, [step]) ∧ step.instruction = .evaluate script ∧
        Query.IsAskedBy ⟨.css, oddlyNamed.selector⟩ script := by
  have whole : Text.joinHalves oddlyNamed.value = oddlyNamed.value := by
    decide
  obtain ⟨step, script, lowered, evaluated, fits, _⟩ :=
    count_asks_iff oddlyNamed whole ⟨"", 2⟩ {}
  have closed : ¬ oddlyNamed.OpensLikePath := by
    simp [oddlyNamed, Target.OpensLikePath]
  obtain ⟨query, stands, asked⟩ := fits.mpr ⟨by decide, closed⟩
  obtain rfl := Option.some.inj stands
  exact ⟨whole, step, script, lowered, evaluated, asked⟩

/-- The text of a link is asked for as a CSS selector, and a CSS selector that opens like a path is
asked for as a path. -/
theorem count_asks_otherwise :
    countScript (Locator.normalize "By.linkText(\"Help\")") =
        "() => document.querySelectorAll(\"text=\\\"Help\\\"\").length" ∧
      Query.IsAskedBy ⟨.path, "//a"⟩
        (countScript (Locator.normalize "By.cssSelector(\"xpath=//a\")")) ∧
      ¬ Query.IsAskedBy ⟨.css, "xpath=//a"⟩
        (countScript (Locator.normalize "By.cssSelector(\"xpath=//a\")")) := by
  have pathLike : Locator.normalize "By.cssSelector(\"xpath=//a\")" = "xpath=//a" := by
    decide +kernel
  have asked := @Query.isAskedBy_countScript_iff "xpath=//a" (by decide)
  refine ⟨by decide +kernel, ?_, ?_⟩
  · rw [pathLike]
    exact (asked _).mpr rfl
  · rw [pathLike, asked]
    decide

end BrowserPlan
