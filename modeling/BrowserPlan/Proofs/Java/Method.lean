/-
This file fixes how a test method is written and proves that its head is read back from the masked
text: the name, and the text from the opening brace on.

A test method is data, each part with what it has to be. Only the title stands in a literal. So the
head is written twice, once with the title and once with what the mask leaves of it, and it is
enough for reading that no parenthesis is left.
-/

import BrowserPlan.Java.TestMethod
import BrowserPlan.Proofs.Java.Standalone
import BrowserPlan.Proofs.Text.Word

namespace BrowserPlan.Java

/-! ### The parts of a test method -/

/-- Blanks, of which there may be none. -/
structure Gap where
  text : Text
  blank : Text.isAllBlank text = true

/-- Blanks, of which there is at least one. -/
structure Space extends Gap where
  notEmpty : text ≠ []

/-- The name of a method. -/
structure Name where
  text : Text
  notEmpty : text ≠ []
  isWord : ∀ char ∈ text, Text.isWord char = true

/-- Whether a character may stand in a dotted name. -/
def isDotted (char : Char) : Bool :=
  Text.isWord char || char == '.'

/-- The name of an exception. -/
structure DottedName where
  text : Text
  notEmpty : text ≠ []
  dotted : ∀ char ∈ text, isDotted char = true

/-- An annotation with the title of a test. -/
structure Title where
  value : Text
  behind : Space

/-- A modifier in front of a test method. -/
structure Modifier where
  word : Text
  known : word ∈ modifiers
  behind : Space

/-- A further name in a list of exceptions. -/
structure FurtherName where
  before : Gap
  behind : Gap
  name : DottedName

/-- The exceptions that a test method throws. -/
structure Exceptions where
  before : Space
  first : DottedName
  more : List FurtherName
  behind : Gap

/-- What stands between the braces of a test method: lines that leave no brace open either. -/
structure Body extends Lines where
  depth : (scan .full text).depth = 0
  lowest : (scan .full text).lowest = 0

/-- A test method. -/
structure WrittenTest where
  behindMark : Space
  title? : Option Title
  modifiers : List Modifier
  behindVoid : Space
  name : Name
  behindParameters : Gap
  exceptions? : Option Exceptions
  body : Body

/-! ### How a test method is written -/

/-- The title as it is written. -/
def Title.text (write : Text → Text) (title : Title) : Text :=
  "@DisplayName(" ++ (write title.value ++ (")" ++ title.behind.text))

/-- The modifier as it is written. -/
def Modifier.text (modifier : Modifier) : Text :=
  modifier.word ++ modifier.behind.text

/-- The further name as it is written. -/
def FurtherName.text (further : FurtherName) : Text :=
  further.before.text ++ ("," ++ (further.behind.text ++ further.name.text))

/-- The exceptions as they are written. -/
def Exceptions.text (exceptions : Exceptions) : Text :=
  "throws" ++ (exceptions.before.text ++ (exceptions.first.text ++
    (exceptions.more.flatMap FurtherName.text ++ exceptions.behind.text)))

namespace WrittenTest

/-- The head without its annotations. -/
def signature (method : WrittenTest) : Text :=
  method.modifiers.flatMap Modifier.text ++ ("void" ++ (method.behindVoid.text ++
    (method.name.text ++ ("()" ++ (method.behindParameters.text ++
      (method.exceptions?.map Exceptions.text).getD [])))))

/-- The head, with the title as it is written by `write`. -/
def head (write : Text → Text) (method : WrittenTest) : Text :=
  "@Test" ++ (method.behindMark.text ++
    ((method.title?.map (Title.text write)).getD [] ++ method.signature))

/-- The body with its braces. -/
def block (method : WrittenTest) : Text :=
  '\x7b' :: (method.body.text ++ ['\x7d'])

/-- The test as it is written. -/
def text (method : WrittenTest) : Text :=
  method.head literal ++ method.block

end WrittenTest

/-! ### Blanks and words in front of a text -/

theorem Gap.cases (gap : Gap) :
    gap.text = [] ∨ ∃ char more, gap.text = char :: more ∧ Text.isBlank char = true ∧
      Text.isAllBlank more = true := by
  obtain ⟨text, blank⟩ := gap
  cases text with
  | nil => exact .inl rfl
  | cons char more =>
    rw [Text.isAllBlank, List.all_cons, Bool.and_eq_true] at blank
    exact .inr ⟨char, more, rfl, blank⟩

theorem Space.exists_cons (space : Space) :
    ∃ char more, space.text = char :: more ∧ Text.isBlank char = true ∧
      Text.isAllBlank more = true :=
  space.toGap.cases.resolve_left space.notEmpty

theorem Space.dropSomeBlanks?_append (space : Space) (rest : Text) :
    Text.dropSomeBlanks? (space.text ++ rest) = some (Text.dropBlanks rest) := by
  obtain ⟨char, more, equal, blank, further⟩ := space.exists_cons
  rw [equal, List.cons_append, Text.dropSomeBlanks?, if_pos blank, Text.dropBlanks_append further]

theorem Space.atWordEnd_append (space : Space) (rest : Text) :
    Text.atWordEnd (space.text ++ rest) = true := by
  obtain ⟨char, more, equal, blank, _⟩ := space.exists_cons
  rw [equal]
  exact congrArg (!·) (Text.isWord_eq_false_of_isBlank blank)

/-- The text starts with a word. -/
def StartsWithWord (text : Text) : Prop :=
  ∃ char rest, text = char :: rest ∧ Text.isWord char = true

theorem StartsWithWord.append {front : Text} (starts : StartsWithWord front) (rest : Text) :
    StartsWithWord (front ++ rest) := by
  obtain ⟨char, more, rfl, isWord⟩ := starts
  exact ⟨char, more ++ rest, rfl, isWord⟩

theorem Name.startsWithWord (name : Name) : StartsWithWord name.text := by
  obtain ⟨text, notEmpty, isWord⟩ := name
  obtain ⟨char, more, rfl⟩ := List.exists_cons_of_ne_nil notEmpty
  exact ⟨char, more, rfl, isWord char List.mem_cons_self⟩

theorem Modifier.startsWithWord (modifier : Modifier) : StartsWithWord modifier.text := by
  have words : ∀ word ∈ modifiers, ∃ char rest, word = char :: rest ∧ Text.isWord char = true := by
    simp [modifiers]
    decide
  exact StartsWithWord.append (words _ modifier.known) _

theorem StartsWithWord.dropBlanks {text : Text} (starts : StartsWithWord text) :
    Text.dropBlanks text = text := by
  obtain ⟨char, rest, rfl, isWord⟩ := starts
  exact Text.dropBlanks_cons (Text.isBlank_eq_false_of_isWord isWord) rest

/-- What does not open with a word is not read where a word stands. -/
theorem StartsWithWord.after?_eq_none {text opening : Text} (starts : StartsWithWord text)
    (other : opening.head?.map Text.isWord = some false) : Text.after? opening text = none := by
  obtain ⟨char, rest, rfl, isWord⟩ := starts
  obtain ⟨mark, isMark, notWord⟩ := Option.map_eq_some_iff.mp other
  obtain ⟨opening, rfl⟩ := List.head?_eq_some_iff.mp isMark
  refine if_neg ?_
  rintro rfl
  rw [isWord] at notWord
  cases notWord

/-! ### Reading annotations -/

theorem Title.text_append (write : Text → Text) (title : Title) (rest : Text) :
    title.text write ++ rest = '@' :: ("DisplayName" ++
      '(' :: (write title.value ++ ')' :: (title.behind.text ++ rest))) := by
  have opening : ("@DisplayName(" : Text) = '@' :: ("DisplayName" ++ ['(']) := by decide
  have closing : (")" : Text) = [')'] := by decide
  unfold Title.text
  simp only [opening, closing, List.cons_append, List.append_assoc, List.nil_append]

theorem skipParentheses_append (gap : Gap) {rest : Text} (solid : Text.dropBlanks rest = rest)
    (other : Text.after? "(" rest = none) :
    skipParentheses (gap.text ++ rest) = gap.text ++ rest := by
  rw [skipParentheses, Text.dropBlanks_append gap.blank, solid, readParentheses, other]
  rfl

theorem readParentheses_append {inside : Text} (closedBehind : ')' ∉ inside) (rest : Text) :
    readParentheses ('(' :: (inside ++ ')' :: rest)) = some rest := by
  have passed : (inside ++ ')' :: rest).dropWhile (fun char => decide (char ≠ ')')) =
      ')' :: rest := by
    rw [List.dropWhile_append_of_pos, List.dropWhile_cons_of_neg (by simp)]
    intro char member
    simpa using ne_of_mem_of_not_mem member closedBehind
  have opening : Text.after? "(" ('(' :: (inside ++ ')' :: rest)) = some (inside ++ ')' :: rest) :=
    rfl
  rw [readParentheses, opening]
  simp only [passed]

/-- A title is read as an annotation, if its value hides no parenthesis. -/
theorem readAnnotation_title {write : Text → Text} {title : Title}
    (hidden : ')' ∉ write title.value) (space : Space) (rest : Text) :
    readAnnotation (space.text ++ (title.text write ++ rest)) =
      some (title.behind.text ++ rest) := by
  have sign (behind : Text) : Text.after? "@" ('@' :: behind) = some behind := rfl
  have name (behind : Text) (fuel : Nat) :
      readAnnotationName (fuel + 1) ("DisplayName" ++ '(' :: behind) = some ('(' :: behind) := by
    have isWord : ("DisplayName" : Text).all Text.isWord = true := by decide
    rw [readAnnotationName, Text.readWord?_append (by decide) (List.all_eq_true.mp isWord) rfl]
    rfl
  unfold readAnnotation
  rw [space.dropSomeBlanks?_append, title.text_append, Text.dropBlanks_cons rfl]
  simp only [bind, Option.bind_some, sign, name]
  rw [skipParentheses, Text.dropBlanks_cons rfl, readParentheses_append hidden]
  rfl

theorem readAnnotation_word (space : Space) {rest : Text} (starts : StartsWithWord rest) :
    readAnnotation (space.text ++ rest) = none := by
  unfold readAnnotation
  rw [space.dropSomeBlanks?_append, starts.dropBlanks]
  show (Text.after? "@" rest).bind _ = _
  rw [starts.after?_eq_none rfl]
  rfl

theorem skipAnnotations_word (fuel : Nat) (space : Space) {rest : Text}
    (starts : StartsWithWord rest) :
    skipAnnotations fuel (space.text ++ rest) = space.text ++ rest := by
  cases fuel with
  | zero => rfl
  | succ fuel => rw [skipAnnotations, readAnnotation_word space starts]

/-- The annotations of a test method are passed over, whether there is a title or not. -/
theorem skipAnnotations_title {write : Text → Text} (hidden : ∀ value, ')' ∉ write value)
    {fuel : Nat} (enough : 0 < fuel) (space : Space) (title? : Option Title) {rest : Text}
    (starts : StartsWithWord rest) :
    Text.dropSomeBlanks? (skipAnnotations fuel
      (space.text ++ ((title?.map (Title.text write)).getD [] ++ rest))) = some rest := by
  cases title? with
  | none =>
    rw [Option.map_none, Option.getD_none, List.nil_append, skipAnnotations_word _ _ starts,
      space.dropSomeBlanks?_append, starts.dropBlanks]
  | some title =>
    obtain ⟨fuel, rfl⟩ := Nat.exists_eq_succ_of_ne_zero enough.ne'
    rw [Option.map_some, Option.getD_some, skipAnnotations, readAnnotation_title (hidden _)]
    simp only
    rw [skipAnnotations_word _ _ starts, title.behind.dropSomeBlanks?_append, starts.dropBlanks]

/-! ### Reading modifiers -/

/-- No modifier is the beginning of another one. -/
theorem modifiers_apart :
    ∀ first ∈ modifiers, ∀ second ∈ modifiers, first <+: second → first = second := by
  decide +kernel

theorem readModifier_append (modifier : Modifier) (rest : Text) :
    readModifier (modifier.text ++ rest) = some (Text.dropBlanks rest) := by
  have read : (Text.after? modifier.word (modifier.text ++ rest)).bind Text.dropSomeBlanks? =
      some (Text.dropBlanks rest) := by
    rw [Modifier.text, List.append_assoc, Text.after?_append, Option.bind_some,
      modifier.behind.dropSomeBlanks?_append]
  cases found : readModifier (modifier.text ++ rest) with
  | none =>
    rw [List.findSome?_eq_none_iff.mp found _ modifier.known] at read
    cases read
  | some behind =>
    -- Another modifier that could be read here would open with this one or the other way round.
    obtain ⟨other, known, readOther⟩ := List.exists_of_findSome?_eq_some found
    obtain ⟨_, here, _⟩ := Option.bind_eq_some_iff.mp readOther
    have first : other <+: modifier.text ++ rest := ⟨_, (Text.after?_eq_some_iff.mp here).symm⟩
    have second : modifier.word <+: modifier.text ++ rest :=
      (List.prefix_append _ _).trans (List.prefix_append _ _)
    have same : other = modifier.word := by
      obtain shorter | longer := List.prefix_or_prefix_of_prefix first second
      · exact modifiers_apart _ known _ modifier.known shorter
      · exact (modifiers_apart _ modifier.known _ known longer).symm
    rw [← readOther, same, read]

theorem skipModifiers_void (fuel : Nat) (rest : Text) :
    skipModifiers fuel ("void" ++ rest) = "void" ++ rest := by
  cases fuel with
  | zero => rfl
  | succ fuel => rfl

theorem startsWithWord_modifiers (list : List Modifier) (rest : Text) :
    StartsWithWord (list.flatMap Modifier.text ++ ("void" ++ rest)) := by
  cases list with
  | nil => exact ⟨'v', "oid" ++ rest, rfl, by decide⟩
  | cons modifier list =>
    rw [List.flatMap_cons, List.append_assoc]
    exact modifier.startsWithWord.append _

/-- All modifiers are passed by, up to the type of the method. -/
theorem skipModifiers_append (list : List Modifier) {fuel : Nat} (enough : list.length ≤ fuel)
    (rest : Text) :
    skipModifiers fuel (list.flatMap Modifier.text ++ ("void" ++ rest)) = "void" ++ rest := by
  induction list generalizing fuel with
  | nil => exact skipModifiers_void fuel rest
  | cons modifier list inductionHypothesis =>
    cases fuel with
    | zero => cases enough
    | succ fuel =>
      rw [List.flatMap_cons, List.append_assoc, skipModifiers, readModifier_append,
        (startsWithWord_modifiers list rest).dropBlanks]
      exact inductionHypothesis (Nat.le_of_succ_le_succ enough)

/-! ### Reading exceptions -/

theorem isBlank_eq_false_of_isDotted {char : Char} (dotted : isDotted char = true) :
    Text.isBlank char = false := by
  obtain word | point := Bool.or_eq_true_iff.mp dotted
  · exact Text.isBlank_eq_false_of_isWord word
  · rw [beq_iff_eq.mp point]
    rfl

theorem DottedName.dropBlanks_append (name : DottedName) (rest : Text) :
    Text.dropBlanks (name.text ++ rest) = name.text ++ rest := by
  obtain ⟨text, notEmpty, dotted⟩ := name
  obtain ⟨char, more, rfl⟩ := List.exists_cons_of_ne_nil notEmpty
  exact Text.dropBlanks_cons (isBlank_eq_false_of_isDotted (dotted char List.mem_cons_self)) _

/-- No dotted name goes on behind another one. -/
theorem dropWhile_isDotted_append (gap : Gap) {char : Char} (stops : isDotted char = false)
    (rest : Text) :
    (gap.text ++ char :: rest).dropWhile isDotted = gap.text ++ char :: rest := by
  obtain empty | ⟨first, more, equal, blank, _⟩ := gap.cases
  · rw [empty]
    exact List.dropWhile_cons_of_neg (Bool.eq_false_iff.mp stops)
  · rw [equal]
    refine List.dropWhile_cons_of_neg fun dotted => ?_
    rw [isBlank_eq_false_of_isDotted dotted] at blank
    cases blank

theorem DottedName.readDotted_append (name : DottedName) {rest : Text}
    (ends : rest.dropWhile isDotted = rest) : readDotted (name.text ++ rest) = some rest := by
  have left : skipDotted (name.text ++ rest) = rest :=
    (List.dropWhile_append_of_pos name.dotted).trans ends
  have shorter : rest.length < (name.text ++ rest).length := by
    rw [List.length_append]
    exact Nat.lt_add_of_pos_left (List.length_pos_iff.mpr name.notEmpty)
  rw [readDotted, left, if_pos shorter]

theorem FurtherName.text_append (further : FurtherName) (rest : Text) :
    further.text ++ rest =
      further.before.text ++ ("," ++ (further.behind.text ++ (further.name.text ++ rest))) := by
  unfold FurtherName.text
  simp only [List.append_assoc]

/-- What follows a name in a list of exceptions is no part of the name. -/
theorem dropWhile_isDotted_names (more : List FurtherName) (gap : Gap) (rest : Text) :
    (more.flatMap FurtherName.text ++ (gap.text ++ '\x7b' :: rest)).dropWhile isDotted =
      more.flatMap FurtherName.text ++ (gap.text ++ '\x7b' :: rest) := by
  have brace : isDotted '\x7b' = false := by decide
  have comma : isDotted ',' = false := by decide
  cases more with
  | nil => exact dropWhile_isDotted_append gap brace rest
  | cons further more =>
    rw [List.flatMap_cons, List.append_assoc, further.text_append]
    exact dropWhile_isDotted_append further.before comma _

theorem skipNames_append (more : List FurtherName) {fuel : Nat} (enough : more.length ≤ fuel)
    (gap : Gap) (rest : Text) :
    skipNames fuel (more.flatMap FurtherName.text ++ (gap.text ++ '\x7b' :: rest)) =
      gap.text ++ '\x7b' :: rest := by
  induction more generalizing fuel with
  | nil =>
    cases fuel with
    | zero => rfl
    | succ fuel =>
      rw [List.flatMap_nil, List.nil_append, skipNames, Text.dropBlanks_append gap.blank,
        Text.dropBlanks_cons rfl]
      rfl
  | cons further more inductionHypothesis =>
    cases fuel with
    | zero => cases enough
    | succ fuel =>
      have comma (behind : Text) : Text.after? "," ("," ++ behind) = some behind :=
        Text.after?_append "," behind
      have solid (behind : Text) : Text.dropBlanks ("," ++ behind) = "," ++ behind :=
        Text.dropBlanks_cons rfl behind
      rw [List.flatMap_cons, List.append_assoc, further.text_append, skipNames,
        Text.dropBlanks_append further.before.blank, solid, comma]
      simp only [bind, Option.bind_some]
      rw [Text.dropBlanks_append further.behind.blank, further.name.dropBlanks_append,
        further.name.readDotted_append (dropWhile_isDotted_names more gap rest)]
      exact inductionHypothesis (Nat.le_of_succ_le_succ enough)

/-- Texts of which none is empty have as many characters as there are texts. -/
theorem length_le_length_flatMap {Part : Type} (text : Part → Text)
    (notEmpty : ∀ part, text part ≠ []) (parts : List Part) :
    parts.length ≤ (parts.flatMap text).length := by
  induction parts with
  | nil => exact Nat.zero_le _
  | cons part parts inductionHypothesis =>
    have positive := List.length_pos_iff.mpr (notEmpty part)
    rw [List.flatMap_cons, List.length_append, List.length_cons]
    omega

theorem FurtherName.text_ne_nil (further : FurtherName) : further.text ≠ [] := by
  intro nothing
  obtain ⟨_, behindBefore⟩ := List.append_eq_nil_iff.mp nothing
  obtain ⟨_, behindComma⟩ := List.append_eq_nil_iff.mp behindBefore
  exact further.name.notEmpty (List.append_eq_nil_iff.mp behindComma).2

theorem Modifier.text_ne_nil (modifier : Modifier) : modifier.text ≠ [] :=
  fun nothing => modifier.behind.notEmpty (List.append_eq_nil_iff.mp nothing).2

/-- The exceptions of a test method are passed over, whether there are some or not. -/
theorem skipExceptions_append (gap : Gap) (exceptions? : Option Exceptions) (rest : Text) :
    skipExceptions (Text.dropBlanks
        (gap.text ++ ((exceptions?.map Exceptions.text).getD [] ++ '\x7b' :: rest))) =
      '\x7b' :: rest := by
  rw [Text.dropBlanks_append gap.blank]
  cases exceptions? with
  | none => rfl
  | some exceptions =>
    have opening (behind : Text) : Text.dropBlanks ("throws" ++ behind) = "throws" ++ behind :=
      @Text.dropBlanks_cons 't' rfl ("hrows" ++ behind)
    have throws (behind : Text) : Text.after? "throws" ("throws" ++ behind) = some behind :=
      Text.after?_append "throws" behind
    have enough : exceptions.more.length ≤ (exceptions.more.flatMap FurtherName.text ++
        (exceptions.behind.text ++ '\x7b' :: rest)).length :=
      (length_le_length_flatMap _ FurtherName.text_ne_nil _).trans
        (List.sublist_append_left _ _).length_le
    rw [Option.map_some, Option.getD_some]
    unfold Exceptions.text
    simp only [List.append_assoc]
    rw [opening, skipExceptions, throws]
    simp only [bind, Option.bind_some]
    rw [exceptions.before.dropSomeBlanks?_append, Option.bind_some,
      exceptions.first.dropBlanks_append, exceptions.first.readDotted_append
        (dropWhile_isDotted_names _ _ _)]
    simp only [Option.bind_some]
    rw [skipNames_append _ enough, Text.dropBlanks_append exceptions.behind.blank]
    rfl

/-! ### The whole head -/

/-- The mark of a test is one if blanks follow it. -/
theorem testMark?_append (space : Space) (rest : Text) :
    testMark? ("@Test" ++ (space.text ++ rest)) = some (space.text ++ rest) := by
  rw [testMark?, Text.keyword?, Text.after?_append, Option.filter_some, space.atWordEnd_append]
  rfl

/-- Behind the mark of a test there are no parentheses to pass over. -/
theorem skipParentheses_title (write : Text → Text) (space : Space) (title? : Option Title)
    {rest : Text} (starts : StartsWithWord rest) :
    skipParentheses (space.text ++ ((title?.map (Title.text write)).getD [] ++ rest)) =
      space.text ++ ((title?.map (Title.text write)).getD [] ++ rest) := by
  cases title? with
  | none => exact skipParentheses_append space.toGap starts.dropBlanks (starts.after?_eq_none rfl)
  | some title =>
    refine skipParentheses_append space.toGap ?_ ?_
    · rw [Option.map_some, Option.getD_some, title.text_append]
      exact Text.dropBlanks_cons rfl _
    · rw [Option.map_some, Option.getD_some, title.text_append]
      rfl

/-- The head of a test method is read back, if its title shows no parenthesis. -/
theorem WrittenTest.readHead_head {write : Text → Text} (hidden : ∀ value, ')' ∉ write value)
    (method : WrittenTest) (rest : Text) :
    readHead (method.head write ++ '\x7b' :: rest) =
      some (method.name.text, '\x7b' :: rest) := by
  have signature : method.signature ++ '\x7b' :: rest =
      method.modifiers.flatMap Modifier.text ++ ("void" ++ (method.behindVoid.text ++
        (method.name.text ++ ("()" ++ (method.behindParameters.text ++
          ((method.exceptions?.map Exceptions.text).getD [] ++ '\x7b' :: rest)))))) := by
    unfold WrittenTest.signature
    simp only [List.append_assoc]
  have starts : StartsWithWord (method.signature ++ '\x7b' :: rest) := by
    rw [signature]
    exact startsWithWord_modifiers _ _
  have positive : 0 < (method.behindMark.text ++
      ((method.title?.map (Title.text write)).getD [] ++
        (method.signature ++ '\x7b' :: rest))).length :=
    List.length_pos_iff.mpr (List.append_ne_nil_of_left_ne_nil method.behindMark.notEmpty _)
  have enough : method.modifiers.length ≤ (method.signature ++ '\x7b' :: rest).length := by
    rw [signature]
    exact (length_le_length_flatMap _ Modifier.text_ne_nil _).trans
      (List.sublist_append_left _ _).length_le
  have parameters (behind : Text) :
      readParentheses (Text.dropBlanks ("()" ++ behind)) = some behind := rfl
  -- The parts are read in the order in which they are written.
  unfold head
  simp only [List.append_assoc]
  rw [readHead, testMark?_append]
  simp only [bind, Option.bind_some]
  rw [skipParentheses_title _ _ _ starts, skipAnnotations_title hidden positive _ _ starts]
  simp only [Option.bind_some]
  rw [signature] at enough ⊢
  rw [skipModifiers_append _ enough, Text.after?_append]
  simp only [Option.bind_some]
  rw [method.behindVoid.dropSomeBlanks?_append, (method.name.startsWithWord.append _).dropBlanks]
  simp only [Option.bind_some]
  rw [Text.readWord?_append method.name.notEmpty method.name.isWord rfl]
  simp only [Option.bind_some, parameters]
  rw [skipExceptions_append]
  rfl

/-! ### The head under the mask -/

theorem Gap.bare (gap : Gap) : gap.text.all isBare = true :=
  List.all_eq_true.mpr fun char member =>
    isBare_of_class rfl rfl rfl (List.all_eq_true.mp gap.blank char member)

theorem DottedName.bare (name : DottedName) : name.text.all isBare = true :=
  List.all_eq_true.mpr fun char member => isBare_of_class rfl rfl rfl (name.dotted char member)

theorem Modifier.bare (modifier : Modifier) : modifier.text.all isBare = true := by
  have words : ∀ word ∈ modifiers, word.all isBare = true := by
    decide +kernel
  rw [Modifier.text, List.all_append, words _ modifier.known, modifier.behind.bare]
  rfl

theorem FurtherName.bare (further : FurtherName) : further.text.all isBare = true := by
  unfold FurtherName.text
  rw [List.all_append, List.all_append, List.all_append, further.before.bare, further.behind.bare,
    further.name.bare]
  rfl

theorem Exceptions.bare (exceptions : Exceptions) : exceptions.text.all isBare = true := by
  have more : (exceptions.more.flatMap FurtherName.text).all isBare = true := by
    rw [List.all_flatMap]
    exact List.all_eq_true.mpr fun further _ => further.bare
  unfold Exceptions.text
  rw [List.all_append, List.all_append, List.all_append, List.all_append, exceptions.before.bare,
    exceptions.first.bare, more, exceptions.behind.bare]
  rfl

theorem WrittenTest.signature_bare (method : WrittenTest) : method.signature.all isBare = true := by
  have words : (method.modifiers.flatMap Modifier.text).all isBare = true := by
    rw [List.all_flatMap]
    exact List.all_eq_true.mpr fun modifier _ => modifier.bare
  have name : method.name.text.all isBare = true :=
    List.all_eq_true.mpr fun char member => isBare_of_isWord (method.name.isWord char member)
  have exceptions : ((method.exceptions?.map Exceptions.text).getD []).all isBare = true := by
    cases method.exceptions? with
    | none => rfl
    | some exceptions => exact exceptions.bare
  unfold signature
  rw [List.all_append, List.all_append, List.all_append, List.all_append, List.all_append,
    List.all_append, words, method.behindVoid.bare, name, method.behindParameters.bare, exceptions]
  rfl

/-- Of a title the literal is hidden or shown, and nothing else. -/
theorem Title.showsAs (mask : Mask) (title : Title) :
    ShowsAs mask (title.text literal) (title.text (shownLiteral mask)) := by
  have opening : ShowsAs mask "@DisplayName(" "@DisplayName(" :=
    showsAs_code (by decide +kernel) mask
  have closing : ShowsAs mask (")" ++ title.behind.text) (")" ++ title.behind.text) :=
    (showsAs_code (by decide) mask).append (showsAs_code title.behind.bare mask)
  exact opening.append (closing.literal_append rfl title.value)

/-- Of the head nothing but the title is masked. -/
theorem WrittenTest.showsAs_head (mask : Mask) (method : WrittenTest) :
    ShowsAs mask (method.head literal) (method.head (shownLiteral mask)) := by
  have mark : ShowsAs mask "@Test" "@Test" := showsAs_code (by decide) mask
  have title : ShowsAs mask ((method.title?.map (Title.text literal)).getD [])
      ((method.title?.map (Title.text (shownLiteral mask))).getD []) := by
    cases method.title? with
    | none => exact fun _ => rfl
    | some title => exact title.showsAs mask
  exact mark.append ((showsAs_code method.behindMark.bare mask).append
    (title.append (showsAs_code method.signature_bare mask)))

/-- Under the full mask a title shows no parenthesis. -/
theorem not_mem_shownLiteral (value : Text) : ')' ∉ shownLiteral .full value := by
  have hidden : ')' ∉ blank (escape value) := by
    intro member
    obtain ⟨char, _, equal⟩ := List.mem_map.mp member
    split_ifs at equal with newline
    · rw [newline] at equal
      exact absurd equal (by decide)
    · exact absurd equal (by decide)
  intro member
  obtain quote | member := List.mem_cons.mp member
  · exact absurd quote (by decide)
  · obtain inside | quote := List.mem_append.mp member
    · exact hidden inside
    · exact absurd (List.mem_singleton.mp quote) (by decide)

end BrowserPlan.Java
