/-
This file proves that the readers of a test read what is printed: words, arguments, locators
and look-ups.

An argument is read up to the first semicolon, and only if a parenthesis closes before it, so
that the reader, which tries one position after the other, never has a choice.
-/

import BrowserPlan.Proofs.Action.Script

namespace BrowserPlan

/-! ### Arguments -/

theorem beforeParenthesis?_of_blank {text : Text} (blank : Text.isAllBlank text = true) :
    beforeParenthesis? text = none := by
  rw [beforeParenthesis?, Text.trimRight_eq_nil_iff.mpr blank]
  rfl

theorem beforeParenthesis?_cons_of_blank {text : Text} (blank : Text.isAllBlank text = true)
    (char : Char) :
    beforeParenthesis? (char :: text) = if char = ')' then some [] else none := by
  rw [beforeParenthesis?]
  by_cases isBlank : Text.isBlank char = true
  · have notClosing : char ≠ ')' := by
      rintro rfl
      exact absurd isBlank (by decide)
    have nothing : Text.trimRight (char :: text) = [] := by
      rw [Text.trimRight_cons, if_pos ⟨blank, isBlank⟩]
    rw [nothing, if_neg notClosing]
    rfl
  · have single : Text.trimRight (char :: text) = [char] := by
      rw [Text.trimRight_cons, if_neg fun both => isBlank both.2,
        Text.trimRight_eq_nil_iff.mpr blank]
    simp [single]

theorem beforeParenthesis?_cons_of_not_blank {text : Text}
    (notBlank : ¬ Text.isAllBlank text = true) (char : Char) :
    beforeParenthesis? (char :: text) = (beforeParenthesis? text).map (List.cons char) := by
  have left : Text.trimRight text ≠ [] := mt Text.trimRight_eq_nil_iff.mp notBlank
  have trimmed : Text.trimRight (char :: text) = char :: Text.trimRight text := by
    rw [Text.trimRight_cons, if_neg fun both => notBlank both.1]
  rw [beforeParenthesis?, beforeParenthesis?, trimmed, List.getLast?_cons_of_ne_nil left,
    List.dropLast_cons_of_ne_nil left]
  split_ifs <;> rfl

theorem statementEnd?_cons_of_ne {char : Char} (notClosing : char ≠ ')') (text : Text) :
    statementEnd? (char :: text) = none := by
  simp [statementEnd?, Text.after?, Ne.symm notClosing]

/-- A parenthesis, blanks and a semicolon end a statement. -/
theorem statementEnd?_append {front : Text} (blank : Text.isAllBlank front = true) (rest : Text) :
    statementEnd? (')' :: (front ++ ';' :: rest)) = some rest := by
  show Text.after? ";" (Text.dropBlanks (front ++ ';' :: rest)) = some rest
  rw [Text.dropBlanks, List.dropWhile_append_of_pos (List.all_eq_true.mp blank)]
  rfl

theorem statementEnd?_of_not_blank {front : Text} (notBlank : ¬ Text.isAllBlank front = true)
    (noSemicolon : ';' ∉ front) (char : Char) (rest : Text) :
    statementEnd? (char :: (front ++ ';' :: rest)) = none := by
  by_cases closing : char = ')'
  · subst closing
    show Text.after? ";" (Text.dropBlanks (front ++ ';' :: rest)) = none
    obtain ⟨first, further, equal⟩ :=
      List.exists_cons_of_ne_nil (mt Text.dropBlanks_eq_nil_iff.mp notBlank)
    have member : first ∈ Text.dropBlanks front := equal ▸ List.mem_cons_self
    have notSemicolon : ';' ≠ first := by
      rintro rfl
      exact noSemicolon ((Text.dropBlanks_isSuffix front).subset member)
    rw [Text.dropBlanks, List.dropWhile_append, ← Text.dropBlanks, equal]
    exact if_neg notSemicolon
  · exact statementEnd?_cons_of_ne closing _

/-- A statement ends at its first semicolon, if a parenthesis closes before it. -/
theorem readToStatementEnd_append {front : Text} (noSemicolon : ';' ∉ front) (rest : Text) :
    readToStatementEnd (front ++ ';' :: rest) =
      (beforeParenthesis? front).map fun passed => (passed, rest) := by
  induction front with
  | nil => rfl
  | cons char front inductionHypothesis =>
    have notSemicolon : char ≠ ';' := fun equal => noSemicolon (equal ▸ List.mem_cons_self)
    have noFurther : ';' ∉ front := fun member => noSemicolon (List.mem_cons_of_mem _ member)
    rw [List.cons_append, readToStatementEnd, inductionHypothesis noFurther, if_neg notSemicolon]
    by_cases allBlank : Text.isAllBlank front = true
    · by_cases closing : char = ')'
      · subst closing
        rw [statementEnd?_append allBlank, beforeParenthesis?_cons_of_blank allBlank, if_pos rfl]
        rfl
      · rw [statementEnd?_cons_of_ne closing, beforeParenthesis?_cons_of_blank allBlank,
          if_neg closing, beforeParenthesis?_of_blank allBlank]
        rfl
    · rw [statementEnd?_of_not_blank allBlank noFurther,
        beforeParenthesis?_cons_of_not_blank allBlank, Option.map_map, Option.map_map]
      rfl

theorem beforeParenthesis?_concat (text : Text) :
    beforeParenthesis? (text ++ [')']) = some text := by
  rw [beforeParenthesis?, Text.trimRight_concat rfl, List.getLast?_concat, List.dropLast_concat,
    if_pos rfl]

theorem trim_literal (value : Text) : Text.trim (Java.literal value) = Java.literal value := by
  rw [Text.trim, Java.literal, List.cons_append, Text.dropBlanks_cons rfl, ← List.cons_append,
    Text.trimRight_concat rfl]

/-- A literal is read as the last argument. -/
theorem readArgument_literal {value : Text} (noSemicolon : ';' ∉ value) (rest : Text) :
    readArgument (Java.literal value ++ (");" ++ rest)) = some (Java.literal value, rest) := by
  have noneWritten : ';' ∉ Java.literal value ++ [')'] := by
    intro member
    rcases List.mem_append.mp member with inLiteral | closing
    · exact noSemicolon (Java.mem_of_mem_literal (by decide) inLiteral)
    · cases List.mem_singleton.mp closing
  have split : Java.literal value ++ (");" ++ rest) =
      Java.literal value ++ [')'] ++ ';' :: rest := by
    rw [List.append_assoc]
    rfl
  rw [readArgument, split, readToStatementEnd_append noneWritten, beforeParenthesis?_concat]
  show some (Text.trim (Java.literal value), rest) = _
  rw [trim_literal]

/-- A written literal is read as its value. -/
theorem literalOrDeferred_literal (value : Text) :
    literalOrDeferred (Java.literal value) = value := by
  have written : Java.wholeLiteral? (Text.trim (Java.literal value)) =
      some (Java.escape value) := by
    rw [trim_literal, Java.wholeLiteral?_literal]
  simp only [literalOrDeferred, written]
  exact Java.unescape_escape value

/-! ### Semicolons -/

/-- What is passed on the way to the end of a statement holds no semicolon. -/
theorem notMem_of_readToStatementEnd {text passed rest : Text}
    (read : readToStatementEnd text = some (passed, rest)) : ';' ∉ passed := by
  induction text generalizing passed with
  | nil => cases read
  | cons char text inductionHypothesis =>
    rw [readToStatementEnd] at read
    cases ends : statementEnd? (char :: text) with
    | some behind =>
      rw [ends] at read
      cases read
      exact List.not_mem_nil
    | none =>
      rw [ends] at read
      split_ifs at read with semicolon
      obtain ⟨⟨further, _⟩, later, equal⟩ := Option.map_eq_some_iff.mp read
      cases equal
      exact List.not_mem_cons_of_ne_of_not_mem (Ne.symm semicolon) (inductionHypothesis later)

/-- An argument ends before the first semicolon. -/
theorem notMem_of_readArgument {text argument rest : Text}
    (read : readArgument text = some (argument, rest)) : ';' ∉ argument := by
  obtain ⟨⟨passed, behind⟩, ends, read⟩ := Option.bind_eq_some_iff.mp read
  dsimp only at read
  split_ifs at read
  cases read
  exact fun member =>
    notMem_of_readToStatementEnd ends ((Text.trim_isInfix passed).subset member)

/-- Neither decoding nor the marks of a deferred value bring a semicolon in. -/
theorem notMem_literalOrDeferred {expression : Text} (without : ';' ∉ expression) :
    ';' ∉ literalOrDeferred expression := by
  have bare : ';' ∉ Text.trim expression := fun member =>
    without ((Text.trim_isInfix expression).subset member)
  unfold literalOrDeferred
  extract_lets trimmed
  split
  · rename_i contents whole
    have notMeant (letter : Char) : Java.escapeMeaning? letter ≠ some ';' := by
      unfold Java.escapeMeaning?
      split <;> decide
    exact fun member =>
      bare (Java.subset_of_wholeLiteral? whole (Java.mem_of_mem_unescape notMeant member))
  · rw [deferred, List.mem_append, List.mem_append]
    rintro ((mark | inside) | close)
    · exact absurd mark (by decide)
    · exact bare inside
    · exact absurd close (by decide)

/-! ### Locators -/

/-- A look-up is read as what its locator means. -/
theorem readLookup_locator (function : Text) {locator : Locator} (wellFormed : locator.WellFormed)
    (spacing : Spacing) (rest : Text) :
    readLookup function (function ++ ("(" ++ (locator.text spacing ++ (")" ++ rest)))) =
      some (locator.meaning spacing, rest) := by
  have opening : Locator.readOpening ("(" ++ (locator.text spacing ++ (")" ++ rest))) =
      some (locator.text spacing ++ (")" ++ rest)) :=
    Locator.readOpening_append .none .none (Text.dropBlanks_cons rfl _)
  have closing : Locator.readClosing (")" ++ rest) = some rest :=
    rfl
  rw [readLookup, Text.after?_append]
  simp only [Option.bind_eq_bind, Option.bind_some, opening, wellFormed.readSelector_text, closing]
  rfl

/-- A lookup of a target is read as its selector. -/
theorem readLookup_text (function : Text) (target : Target) (rest : Text) :
    readLookup function (function ++ ("(" ++ (target.text ++ (")" ++ rest)))) =
      some (target.selector, rest) := by
  rw [target.text_eq, readLookup_locator function target.wellFormed, target.meaning_eq]

/-- A printed look-up is read as the selector of its element. -/
theorem readElement_lookup (target : Target) (rest : Text) :
    readElement (target.lookup ++ rest) = some (target.selector, rest) := by
  rw [target.lookup_append]
  exact readLookup_text "findElement" target rest

/-! ### Up to an element -/

theorem readElement_cons_of_ne {char : Char} (ne : char ≠ 'f') (text : Text) :
    readElement (char :: text) = none := by
  have absent : Text.after? "findElement" (char :: text) = none := if_neg (Ne.symm ne)
  show readLookup "findElement" (char :: text) = none
  rw [readLookup, absent]
  rfl

/-- Nothing but a look-up or a semicolon stops the reading up to an element. -/
theorem readToElementText_append {front : Text}
    (bare : front.all (fun char => char != 'f' && char != ';') = true) (rest : Text) :
    readToElementText (front ++ rest) = readToElementText rest := by
  induction front with
  | nil => rfl
  | cons char front inductionHypothesis =>
    simp only [List.all_cons, Bool.and_eq_true, bne_iff_ne] at bare
    rw [List.cons_append, readToElementText, readElement_cons_of_ne bare.1.1,
      if_neg bare.1.2]
    exact inductionHypothesis bare.2

/-- The reading ends at an element whose text is looked up. -/
theorem readToElementText_of_readElement {text selector rest : Text}
    (element : readElement text = some (selector, ".getText" ++ rest)) :
    readToElementText text = some (selector, rest) := by
  have method : readMethod "getText" (".getText" ++ rest) = some rest := rfl
  cases text with
  | nil => cases element
  | cons char text =>
    rw [readToElementText, element]
    simp only [Option.bind_eq_bind, Option.bind_some, method]
    rfl

/-! ### Constructs -/

/-- A page is opened by any method that is read as one, behind no word. -/
theorem readNavigate_of_readOpenPage {before : Option Char}
    (apart : before.any Text.isWord = false) {method url rest : Text} (noSemicolon : ';' ∉ url)
    (opens : readOpenPage (method ++ ("(" ++ (Java.literal url ++ (");" ++ rest)))) =
      some ("(" ++ (Java.literal url ++ (");" ++ rest)))) :
    readNavigate before ("driver" ++ (method ++ ("(" ++ (Java.literal url ++ (");" ++ rest))))) =
      some (.navigate url, rest) := by
  rw [readNavigate, if_neg (Bool.eq_false_iff.mp apart), Text.after?_append]
  simp only [Option.bind_eq_bind, Option.bind_some, opens]
  show (readArgument (Java.literal url ++ (");" ++ rest))).bind _ = _
  rw [readArgument_literal noSemicolon, Option.bind_some, literalOrDeferred_literal]
  rfl

/-- Opening a page is read back, if its address has no semicolon. -/
theorem readNavigate_openPage {before : Option Char} (apart : before.any Text.isWord = false)
    {url : Text} (noSemicolon : ';' ∉ url) (rest : Text) :
    readNavigate before ("driver.get(" ++ (Java.literal url ++ (");" ++ rest))) =
      some (.navigate url, rest) :=
  @readNavigate_of_readOpenPage before apart ".get" url rest noSemicolon rfl

theorem readNavigate_navigateTo {before : Option Char} (apart : before.any Text.isWord = false)
    {url : Text} (noSemicolon : ';' ∉ url) (rest : Text) :
    readNavigate before ("driver.navigate().to(" ++ (Java.literal url ++ (");" ++ rest))) =
      some (.navigate url, rest) :=
  @readNavigate_of_readOpenPage before apart ".navigate().to" url rest noSemicolon rfl

/-- Typing into an element is read back, if the value has no semicolon. -/
theorem readFill_lookup (target : Target) {value : Text} (noSemicolon : ';' ∉ value)
    (rest : Text) :
    readFill (target.lookup ++ (".sendKeys(" ++ (Java.literal value ++ (");" ++ rest)))) =
      some (.fill target.selector value, rest) := by
  have method : readMethod "sendKeys" (".sendKeys(" ++ (Java.literal value ++ (");" ++ rest))) =
      some ("(" ++ (Java.literal value ++ (");" ++ rest))) :=
    rfl
  rw [readFill, readElement_lookup]
  simp only [Option.bind_eq_bind, Option.bind_some, method]
  show (readArgument (Java.literal value ++ (");" ++ rest))).bind _ = _
  rw [readArgument_literal noSemicolon, Option.bind_some, literalOrDeferred_literal]
  rfl

theorem readElementCall_of_readElement {method call text selector rest : Text}
    (element : readElement text = some (selector, call))
    (reads : readMethod method call = some ("()" ++ rest)) :
    readElementCall method text = some (selector, rest) := by
  have noArguments : readNoArguments ("()" ++ rest) = some rest := rfl
  rw [readElementCall, element]
  simp only [Option.bind_eq_bind, Option.bind_some, reads, noArguments]
  rfl

theorem readElementCall_lookup {method call : Text} (target : Target) (rest : Text)
    (reads : readMethod method (call ++ rest) = some ("()" ++ rest)) :
    readElementCall method (target.lookup ++ (call ++ rest)) = some (target.selector, rest) :=
  readElementCall_of_readElement (readElement_lookup target _) reads

theorem readPoint_append (text : Text) : readPoint ("." ++ text) = some (Text.dropBlanks text) :=
  rfl

theorem readWait_locator {condition : Text} (notEmpty : condition ≠ [])
    (isWord : ∀ char ∈ condition, Text.isWord char = true) {locator : Locator}
    (wellFormed : locator.WellFormed) (spacing : Spacing) (rest : Text) :
    readWait ("ExpectedConditions." ++
        (condition ++ ("(" ++ (locator.text spacing ++ (")" ++ rest))))) =
      some (.wait (locator.meaning spacing) (some condition), rest) := by
  have point : readPoint
      ("." ++ (condition ++ ("(" ++ (locator.text spacing ++ (")" ++ rest))))) =
      some (condition ++ ("(" ++ (locator.text spacing ++ (")" ++ rest)))) := by
    cases condition with
    | nil => exact absurd rfl notEmpty
    | cons char condition =>
      have notBlank := Text.isBlank_eq_false_of_isWord (isWord char List.mem_cons_self)
      rw [readPoint_append, List.cons_append, Text.dropBlanks_cons notBlank]
  have word : Text.readWord? (condition ++ ("(" ++ (locator.text spacing ++ (")" ++ rest)))) =
      some (condition, "(" ++ (locator.text spacing ++ (")" ++ rest))) :=
    Text.readWord?_append notEmpty isWord rfl
  have opening : Locator.readOpening ("(" ++ (locator.text spacing ++ (")" ++ rest))) =
      some (locator.text spacing ++ (")" ++ rest)) :=
    rfl
  have closing : Locator.readClosing (")" ++ rest) = some rest := rfl
  have split : ("ExpectedConditions." : Text) = "ExpectedConditions" ++ ("." : Text) := rfl
  rw [split, List.append_assoc, readWait, Text.after?_append]
  simp only [Option.bind_eq_bind, Option.bind_some, point, word, opening,
    wellFormed.readSelector_text, closing]
  rfl

theorem readWait_condition {condition : Text} (notEmpty : condition ≠ [])
    (isWord : ∀ char ∈ condition, Text.isWord char = true) (target : Target) (rest : Text) :
    readWait ("ExpectedConditions." ++ (condition ++ ("(" ++ (target.text ++ (")" ++ rest))))) =
      some (.wait target.selector (some condition), rest) := by
  rw [target.text_eq, readWait_locator notEmpty isWord target.wellFormed, target.meaning_eq]

theorem readCount_of_readLookup {text selector rest : Text}
    (elements : readLookup "findElements" text = some (selector, ".size()" ++ rest)) :
    readCount text = some (.countElements selector, rest) := by
  have method : readMethod "size" (".size()" ++ rest) = some ("()" ++ rest) := rfl
  have noArguments : readNoArguments ("()" ++ rest) = some rest := rfl
  rw [readCount, elements]
  simp only [Option.bind_eq_bind, Option.bind_some, method, noArguments]
  rfl

theorem readCount_lookup (target : Target) (rest : Text) :
    readCount ("findElements(" ++ (target.text ++ (").size()" ++ rest))) =
      some (.countElements target.selector, rest) :=
  readCount_of_readLookup (readLookup_text "findElements" target (".size()" ++ rest))

theorem readAssertText_of_readElement (expected : Text) {text selector rest : Text}
    (element : readElement text = some (selector, ".getText" ++ rest)) :
    readAssertText ("assertEquals(" ++ (Java.literal expected ++ (", driver." ++ text))) =
      some (.assertText selector expected, rest) := by
  have opening : Locator.readOpening ("(" ++ (Java.literal expected ++ (", driver." ++ text))) =
      some (Java.literal expected ++ (", driver." ++ text)) :=
    rfl
  have comma : Text.after? "," (Text.dropBlanks (", driver." ++ text)) =
      some (" driver." ++ text) :=
    rfl
  have found : readToElementText (" driver." ++ text) = some (selector, rest) := by
    rw [readToElementText_append rfl, readToElementText_of_readElement element]
  have split : ("assertEquals(" : Text) = "assertEquals" ++ ("(" : Text) := rfl
  rw [split, List.append_assoc, readAssertText, Text.after?_append]
  simp only [Option.bind_eq_bind, Option.bind_some, opening, Java.readLiteral_literal, comma,
    found, Java.unescape_escape]
  rfl

/-- Comparing the text of an element is read back. -/
theorem readAssertText_compareText (expected : Text) (target : Target) (rest : Text) :
    readAssertText ("assertEquals(" ++
        (Java.literal expected ++ (", driver." ++ (target.lookup ++ (".getText" ++ rest))))) =
      some (.assertText target.selector expected, rest) :=
  readAssertText_of_readElement expected (readElement_lookup target _)

/-- The argument of a statement stands before its first semicolon and the parenthesis there. -/
theorem readStatement_append (function : Text) {front : Text} (noSemicolon : ';' ∉ front)
    (rest : Text) :
    readStatement function (function ++ ("(" ++ (front ++ ';' :: rest))) =
      ((beforeParenthesis? front).filter (· ≠ [])).map fun passed => (Text.trim passed, rest) := by
  have opened : readOpened ("(" ++ (front ++ ';' :: rest)) = some (front ++ ';' :: rest) := rfl
  rw [readStatement, Text.after?_append]
  simp only [Option.bind_eq_bind, Option.bind_some, opened]
  rw [readArgument, readToStatementEnd_append noSemicolon]
  cases beforeParenthesis? front with
  | none => rfl
  | some passed =>
    rw [Option.map_some, Option.bind_eq_bind, Option.bind_some, Option.filter_some]
    by_cases empty : passed = [] <;> simp [empty]

end BrowserPlan
