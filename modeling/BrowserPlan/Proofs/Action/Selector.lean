/-
This file proves which selectors come out of a body: those that the locators in it mean.

Whatever is done with an element, its selector has been read from a locator that stands in the
body. If the kind of the locator is known, the selector is the form of that kind, made of the
decoded value. But a locator is read with any word as its kind, and one whose kind is not known
leaves the body as it was written. No construct keeps such a locator back.
-/

import BrowserPlan.Proofs.Action.Argument

namespace BrowserPlan

open Java (Uncommented uncommented_code)

/-! ### Selectors are read from locators -/

/-- The selector of the element that an action is about. -/
def Action.selector? : Action → Option Text
  | .click selector => some selector
  | .fill selector _ => some selector
  | .clear selector => some selector
  | .getText selector => some selector
  | .wait selector _ => some selector
  | .assertText selector _ => some selector
  | .countElements selector => some selector
  | _ => none

/-- Whether a locator stands in a text that means the selector. -/
def Locates (text selector : Text) : Prop :=
  ∃ (locator : Locator) (spacing : Spacing), locator.WellFormed ∧
    locator.text spacing <:+: text ∧ selector = locator.meaning spacing

/-- A selector that is located in an end of a text is located in the text. -/
theorem Locates.of_isSuffix {part text selector : Text} (locates : Locates part selector)
    (isSuffix : part <:+ text) : Locates text selector := by
  obtain ⟨locator, spacing, wellFormed, written, means⟩ := locates
  exact ⟨locator, spacing, wellFormed, written.trans isSuffix.isInfix, means⟩

theorem Locates.of_after? {opening text rest selector : Text}
    (read : Text.after? opening text = some rest) (locates : Locates rest selector) :
    Locates text selector :=
  locates.of_isSuffix (Text.isSuffix_of_after? read)

theorem Locates.of_dropBlanks {text selector : Text}
    (locates : Locates (Text.dropBlanks text) selector) : Locates text selector :=
  locates.of_isSuffix (Text.dropBlanks_isSuffix text)

theorem Locates.of_readOpening {text rest selector : Text}
    (read : Locator.readOpening text = some rest) (locates : Locates rest selector) :
    Locates text selector := by
  obtain ⟨_, parenthesis, rfl⟩ := Option.map_eq_some_iff.mp read
  exact (Locates.of_after? parenthesis locates.of_dropBlanks).of_dropBlanks

theorem Locates.of_readPoint {text rest selector : Text} (read : readPoint text = some rest)
    (locates : Locates rest selector) : Locates text selector := by
  obtain ⟨_, point, rfl⟩ := Option.map_eq_some_iff.mp read
  exact (Locates.of_after? point locates.of_dropBlanks).of_dropBlanks

/-! ### One reader after the other -/

/-- What is read as a selector is located where it was read. -/
theorem locates_of_readSelector {text rest selector : Text}
    (read : Locator.readSelector text = some (selector, rest)) : Locates text selector := by
  obtain ⟨locator, spacing, wellFormed, rfl, means⟩ := Locator.exists_of_readSelector read
  exact ⟨locator, spacing, wellFormed, (List.prefix_append _ rest).isInfix, means⟩

theorem locates_of_readLookup {function text rest selector : Text}
    (read : readLookup function text = some (selector, rest)) : Locates text selector := by
  obtain ⟨called, word, read⟩ := Option.bind_eq_some_iff.mp read
  obtain ⟨opened, opening, read⟩ := Option.bind_eq_some_iff.mp read
  obtain ⟨⟨found, behind⟩, located, read⟩ := Option.bind_eq_some_iff.mp read
  obtain ⟨_, _, equal⟩ := Option.bind_eq_some_iff.mp read
  cases equal
  exact .of_after? word (.of_readOpening opening (locates_of_readSelector located))

theorem locates_of_readElementCall {method text rest selector : Text}
    (read : readElementCall method text = some (selector, rest)) : Locates text selector := by
  obtain ⟨⟨found, _⟩, element, read⟩ := Option.bind_eq_some_iff.mp read
  obtain ⟨_, _, read⟩ := Option.bind_eq_some_iff.mp read
  obtain ⟨_, _, equal⟩ := Option.bind_eq_some_iff.mp read
  cases equal
  exact locates_of_readLookup element

theorem locates_of_readFill {text rest selector value : Text}
    (read : readFill text = some (.fill selector value, rest)) : Locates text selector := by
  obtain ⟨⟨found, _⟩, element, read⟩ := Option.bind_eq_some_iff.mp read
  obtain ⟨_, _, read⟩ := Option.bind_eq_some_iff.mp read
  obtain ⟨_, _, read⟩ := Option.bind_eq_some_iff.mp read
  obtain ⟨_, _, equal⟩ := Option.bind_eq_some_iff.mp read
  cases equal
  exact locates_of_readLookup element

theorem locates_of_readToElementText {text rest selector : Text}
    (read : readToElementText text = some (selector, rest)) : Locates text selector := by
  induction text with
  | nil => cases read
  | cons char text inductionHypothesis =>
    rw [readToElementText] at read
    split at read
    · rename_i found here
      cases read
      obtain ⟨⟨_, _⟩, element, here⟩ := Option.bind_eq_some_iff.mp here
      obtain ⟨_, _, equal⟩ := Option.bind_eq_some_iff.mp here
      cases equal
      exact locates_of_readLookup element
    · split_ifs at read
      exact (inductionHypothesis read).of_isSuffix (List.suffix_cons char text)

theorem locates_of_readAssertText {text rest selector expected : Text}
    (read : readAssertText text = some (.assertText selector expected, rest)) :
    Locates text selector := by
  obtain ⟨called, word, read⟩ := Option.bind_eq_some_iff.mp read
  obtain ⟨opened, opening, read⟩ := Option.bind_eq_some_iff.mp read
  obtain ⟨⟨contents, behind⟩, literal, read⟩ := Option.bind_eq_some_iff.mp read
  obtain ⟨second, comma, read⟩ := Option.bind_eq_some_iff.mp read
  obtain ⟨⟨_, _⟩, element, equal⟩ := Option.bind_eq_some_iff.mp read
  cases equal
  have behindLiteral : Locates behind selector :=
    (Locates.of_after? comma (locates_of_readToElementText element)).of_dropBlanks
  obtain ⟨_, rfl⟩ := Java.readLiteral_eq_some_iff.mp literal
  exact .of_after? word (.of_readOpening opening
    (behindLiteral.of_isSuffix (List.suffix_append _ behind)))

theorem locates_of_readWait {text rest selector : Text} {condition : Option Text}
    (read : readWait text = some (.wait selector condition, rest)) : Locates text selector := by
  obtain ⟨named, word, read⟩ := Option.bind_eq_some_iff.mp read
  obtain ⟨pointed, point, read⟩ := Option.bind_eq_some_iff.mp read
  obtain ⟨⟨name, behind⟩, condition?, read⟩ := Option.bind_eq_some_iff.mp read
  obtain ⟨opened, opening, read⟩ := Option.bind_eq_some_iff.mp read
  obtain ⟨⟨_, _⟩, located, read⟩ := Option.bind_eq_some_iff.mp read
  obtain ⟨_, _, equal⟩ := Option.bind_eq_some_iff.mp read
  cases equal
  have behindName : Locates behind selector :=
    .of_readOpening opening (locates_of_readSelector located)
  obtain ⟨_, rfl⟩ := Text.eq_append_of_readWord? condition?
  exact .of_after? word (.of_readPoint point (behindName.of_isSuffix (List.suffix_append name _)))

theorem locates_of_readCount {text rest selector : Text}
    (read : readCount text = some (.countElements selector, rest)) : Locates text selector := by
  obtain ⟨⟨found, _⟩, elements, read⟩ := Option.bind_eq_some_iff.mp read
  obtain ⟨_, _, read⟩ := Option.bind_eq_some_iff.mp read
  obtain ⟨_, _, equal⟩ := Option.bind_eq_some_iff.mp read
  cases equal
  exact locates_of_readLookup elements

theorem eq_some_of_acted {found : Option (Action × Text)} {action : Action} {rest : Text}
    (acted : (found.map fun (given, behind) => (some given, behind)) = some (some action, rest)) :
    found = some (action, rest) := by
  obtain ⟨⟨_, _⟩, read, equal⟩ := Option.map_eq_some_iff.mp acted
  cases equal
  exact read

/-- The selector of every action that is read is located in the text. -/
theorem Construct.locates_of_read {construct : Construct} {before : Option Char}
    {text rest selector : Text} {action : Action}
    (read : construct.read before text = some (some action, rest))
    (element : action.selector? = some selector) : Locates text selector := by
  -- The action tells which construct was read, and so which reader has to be opened.
  have same := construct.finds_read before text _ read action rfl
  cases action with
  | click | clear | getText =>
    cases element
    cases same
    obtain ⟨⟨_, _⟩, read, equal⟩ := Option.map_eq_some_iff.mp (eq_some_of_acted read)
    cases equal
    exact locates_of_readElementCall read
  | fill =>
    cases element
    cases same
    exact locates_of_readFill (eq_some_of_acted read)
  | assertText =>
    cases element
    cases same
    exact locates_of_readAssertText (eq_some_of_acted read)
  | wait =>
    cases element
    cases same
    exact locates_of_readWait (eq_some_of_acted read)
  | countElements =>
    cases element
    cases same
    exact locates_of_readCount (eq_some_of_acted read)
  | navigate | assertTrue | assertFalse | unknown => cases element

/-- Every selector that is recognised in a body is what a locator in it means. -/
theorem locates_of_mem_actionsOfBody {body selector : Text} {order : ActionOrder} {action : Action}
    (member : action ∈ actionsOfBody body order) (element : action.selector? = some selector) :
    Locates (Java.masked .commentsOnly body) selector := by
  obtain ⟨construct, position, found⟩ := mem_actionsOfBody_iff.mp member
  obtain ⟨before, part, rest, isSuffix, read⟩ := Construct.exists_read_of_mem_findAll found
  exact (Construct.locates_of_read read element).of_isSuffix isSuffix

/-! ### Every locator is read -/

/-- A use of an element, one for each construct that is about one. -/
inductive ElementUse where
  | sendKeys
  | clear
  | click
  | getText
  | compareText
  | waitUntil
  | count
  deriving DecidableEq, Repr

namespace ElementUse

/-- What stands before the use. -/
def front : ElementUse → Text
  | .compareText => "\x7b "
  | .waitUntil => "\x7b wait.until("
  | _ => "\x7b driver."

/-- The use up to its locator. -/
def opening : ElementUse → Text
  | .compareText => "assertEquals(" ++ (Java.literal "x" ++ (", driver." ++ ("findElement" ++ "(")))
  | .waitUntil => "ExpectedConditions." ++ ("visibilityOfElementLocated" ++ "(")
  | .count => "findElements" ++ "("
  | _ => "findElement" ++ "("

/-- What stands behind the locator. -/
def closing : ElementUse → Text
  | .sendKeys => ").sendKeys(keys); \x7d"
  | .clear => ").clear(); \x7d"
  | .click => ").click(); \x7d"
  | .getText => ").getText(); \x7d"
  | .compareText => ").getText()); \x7d"
  | .waitUntil => ")); \x7d"
  | .count => ").size(); \x7d"

/-- A body in which the use of what is written is the only statement. -/
def body (use : ElementUse) (written : Text) : Text :=
  use.front ++ (use.opening ++ (written ++ use.closing))

example : click.body "By.partialLinkText(\"He\")" =
    "\x7b driver.findElement(By.partialLinkText(\"He\")).click(); \x7d" :=
  rfl

/-- The construct that the use is recognised by. -/
def construct : ElementUse → Construct
  | .sendKeys => .fill
  | .clear => .clear
  | .click => .click
  | .getText => .getText
  | .compareText => .assertText
  | .waitUntil => .wait
  | .count => .countElements

/-- The action of the use on the element with the given selector. -/
def action (selector : Text) : ElementUse → Action
  | .sendKeys => .fill selector (deferred "keys")
  | .clear => .clear selector
  | .click => .click selector
  | .getText => .getText selector
  | .compareText => .assertText selector "x"
  | .waitUntil => .wait selector (some "visibilityOfElementLocated")
  | .count => .countElements selector

theorem masked_body (use : ElementUse) {written : Text} (uncommented : Uncommented written) :
    Java.masked .commentsOnly (use.body written) = use.body written := by
  have front : Uncommented use.front := by
    cases use <;> exact uncommented_code rfl
  have closing : Uncommented use.closing := by
    cases use <;> exact uncommented_code rfl
  have opening : Uncommented use.opening := by
    cases use with
    | compareText =>
      have called : Uncommented "assertEquals(" := uncommented_code rfl
      have second : Uncommented ", driver.findElement(" := uncommented_code rfl
      exact called.append (second.literal_append rfl "x")
    | _ => exact uncommented_code rfl
  exact (front.append (opening.append (uncommented.append closing))).masked_eq

theorem quiet_front (use : ElementUse) (rest : Text) :
    Quiet use.construct use.front rest := by
  cases use <;> exact quiet_of_code rfl rest

/-- A use is read with what its locator means as the selector. -/
theorem exists_read_opening (use : ElementUse) {locator : Locator}
    (wellFormed : locator.WellFormed) (spacing : Spacing) :
    ∃ rest, use.construct.read use.front.getLast?
        (use.opening ++ (locator.text spacing ++ use.closing)) =
      some (some (use.action (locator.meaning spacing)), rest) := by
  have located (function rest : Text) :
      readLookup function (function ++ "(" ++ (locator.text spacing ++ (")" ++ rest))) =
        some (locator.meaning spacing, rest) := by
    rw [List.append_assoc, readLookup_locator function wellFormed]
  have element := located "findElement"
  have onElement (method call rest : Text) (reads : readMethod method call = some ("()" ++ rest)) :
      readElementCall method ("findElement" ++ "(" ++ (locator.text spacing ++ (")" ++ call))) =
        some (locator.meaning spacing, rest) :=
    readElementCall_of_readElement (element call) reads
  cases use with
  | sendKeys =>
    refine ⟨" \x7d", ?_⟩
    show Option.map _ (readFill ("findElement" ++ "(" ++ (locator.text spacing ++
      (")" ++ ".sendKeys(keys); \x7d")))) = _
    rw [readFill, readElement, element]
    rfl
  | clear =>
    have called := onElement "clear" ".clear(); \x7d" "; \x7d" rfl
    exact ⟨"; \x7d", congrArg (Option.map _) (congrArg (Option.map _) called)⟩
  | click =>
    have called := onElement "click" ".click(); \x7d" "; \x7d" rfl
    exact ⟨"; \x7d", congrArg (Option.map _) (congrArg (Option.map _) called)⟩
  | getText =>
    have called := onElement "getText" ".getText(); \x7d" "; \x7d" rfl
    exact ⟨"; \x7d", congrArg (Option.map _) (congrArg (Option.map _) called)⟩
  | compareText =>
    refine ⟨"()); \x7d", ?_⟩
    show Option.map _ (readAssertText ("assertEquals(" ++ (Java.literal "x" ++ (", driver." ++
      ("findElement" ++ "("))) ++ (locator.text spacing ++
        (")" ++ (".getText" ++ "()); \x7d"))))) = _
    rw [List.append_assoc, List.append_assoc, List.append_assoc,
      readAssertText_of_readElement "x" (element _)]
    rfl
  | waitUntil =>
    -- The condition is read as a word of its own, so the text must be split around it.
    have notEmpty : ("visibilityOfElementLocated" : Text) ≠ [] := List.cons_ne_nil _ _
    have isWord : ("visibilityOfElementLocated" : Text).all Text.isWord = true := rfl
    refine ⟨"); \x7d", ?_⟩
    show Option.map _ (readWait ("ExpectedConditions." ++ ("visibilityOfElementLocated" ++ "(") ++
      (locator.text spacing ++ (")" ++ "); \x7d")))) = _
    rw [List.append_assoc, List.append_assoc,
      readWait_locator notEmpty (List.all_eq_true.mp isWord) wellFormed]
    rfl
  | count =>
    have counted := readCount_of_readLookup (located "findElements" (".size()" ++ "; \x7d"))
    exact ⟨"; \x7d", congrArg (Option.map _) counted⟩

/-- The action of a use is recognised, whatever the kind of the locator is. -/
theorem action_mem_actionsOfBody (use : ElementUse) {word : Text} (notEmpty : word ≠ [])
    (isWord : ∀ char ∈ word, Text.isWord char = true) (value : Text) (spacing : Spacing)
    (order : ActionOrder) :
    use.action (Locator.meaning ⟨word, Java.escape value⟩ spacing) ∈
      actionsOfBody (use.body (Locator.text ⟨word, Java.escape value⟩ spacing)) order := by
  have wellFormed : Locator.WellFormed ⟨word, Java.escape value⟩ :=
    ⟨notEmpty, isWord, Java.isContents_escape value⟩
  obtain ⟨rest, read⟩ := use.exists_read_opening wellFormed spacing
  refine mem_actionsOfBody_iff.mpr ⟨use.construct, use.front.length, ?_⟩
  rw [use.masked_body (Locator.uncommented_text isWord value spacing), body]
  refine Construct.mem_findAll_of_read ?_ (use.quiet_front _) read
  cases use <;> exact List.cons_ne_nil _ _

end ElementUse

/-- Every selector that is recognised is what a locator in the body means, and it is one of the
seven forms of the decoded contents exactly if the kind of the locator is known; otherwise it is the
locator as it is written. And of each use of an element the action is recognised with either of the
two, as the kind has it. -/
theorem selectors_canonical_iff (order : ActionOrder) :
    (∀ (body selector : Text), ∀ action ∈ actionsOfBody body order,
      action.selector? = some selector →
        ∃ (locator : Locator) (spacing : Spacing), locator.WellFormed ∧
          locator.text spacing <:+: Java.masked .commentsOnly body ∧
          ((∃ kind : LocatorKind, selector = kind.selector (Java.unescape locator.contents)) ↔
            ∃ kind : LocatorKind, locator.word = kind.word) ∧
          (∀ kind : LocatorKind, locator.word = kind.word →
            selector = kind.selector (Java.unescape locator.contents)) ∧
          ((∀ kind : LocatorKind, locator.word ≠ kind.word) → selector = locator.text spacing)) ∧
    (∀ (use : ElementUse) (kind : LocatorKind) (value : Text) (spacing : Spacing),
      use.action (kind.selector value) ∈
        actionsOfBody (use.body (Locator.text ⟨kind.word, Java.escape value⟩ spacing)) order) ∧
    (∀ (use : ElementUse) (word value : Text) (spacing : Spacing),
      word ≠ [] → (∀ char ∈ word, Text.isWord char = true) →
        (∀ kind : LocatorKind, word ≠ kind.word) →
          use.action (Locator.text ⟨word, Java.escape value⟩ spacing) ∈
            actionsOfBody (use.body (Locator.text ⟨word, Java.escape value⟩ spacing)) order) := by
  refine ⟨?_, ?_, ?_⟩
  · intro body selector action member element
    obtain ⟨locator, spacing, wellFormed, written, rfl⟩ :=
      locates_of_mem_actionsOfBody member element
    exact ⟨locator, spacing, wellFormed, written, locator.meaning_isForm_iff spacing,
      fun kind known => locator.meaning_of_word_eq spacing known,
      locator.meaning_of_word_ne spacing⟩
  · intro use kind value spacing
    have wellFormed := kind.wellFormed_word (Java.isContents_escape value)
    have recognised :=
      use.action_mem_actionsOfBody wellFormed.notEmpty wellFormed.isWord value spacing order
    rwa [Locator.meaning_of_word_eq _ _ rfl, Java.unescape_escape] at recognised
  · intro use word value spacing notEmpty isWord unknown
    have recognised := use.action_mem_actionsOfBody notEmpty isWord value spacing order
    rwa [Locator.meaning_of_word_ne _ _ unknown] at recognised

/-- A kind that is not known: the code itself becomes the selector. -/
theorem selectors_canonical_iff_partialLinkText :
    Action.click "By.partialLinkText(\"He\")" ∈
        actionsOfBody (ElementUse.click.body "By.partialLinkText(\"He\")") .source ∧
      ∃ (locator : Locator) (spacing : Spacing), locator.WellFormed ∧
        locator.text spacing <:+:
          Java.masked .commentsOnly (ElementUse.click.body "By.partialLinkText(\"He\")") ∧
        ((∃ kind : LocatorKind,
            "By.partialLinkText(\"He\")" = kind.selector (Java.unescape locator.contents)) ↔
          ∃ kind : LocatorKind, locator.word = kind.word) ∧
        (∀ kind : LocatorKind, locator.word = kind.word →
          "By.partialLinkText(\"He\")" = kind.selector (Java.unescape locator.contents)) ∧
        ((∀ kind : LocatorKind, locator.word ≠ kind.word) →
          "By.partialLinkText(\"He\")" = locator.text spacing) := by
  have isWord : ("partialLinkText" : Text).all Text.isWord = true := rfl
  have recognised := (selectors_canonical_iff .source).2.2 .click "partialLinkText" "He" .none
    (List.cons_ne_nil _ _) (List.all_eq_true.mp isWord) (fun kind => by cases kind <;> decide)
  exact ⟨recognised, (selectors_canonical_iff .source).1 _ _ _ recognised rfl⟩

/-- A locator of an unknown kind leaves its body as it is written, and is none of the seven forms
of its value. -/
theorem selector_partialLinkText_written :
    actionsOfBody "\x7b driver.findElement(By.partialLinkText(\"He\")).click(); \x7d" .grouped =
        [.click "By.partialLinkText(\"He\")"] ∧
      Locator.read "By.partialLinkText(\"He\")" = some (⟨"partialLinkText", "He"⟩, []) ∧
      ∀ kind : LocatorKind, kind.selector "He" ≠ "By.partialLinkText(\"He\")" := by
  refine ⟨rfl, rfl, fun kind => ?_⟩
  cases kind <;> decide

end BrowserPlan
