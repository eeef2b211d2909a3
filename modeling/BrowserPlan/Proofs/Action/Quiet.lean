/-
This file proves where no construct is read.

Every construct starts with a word of its own and then, before any quote, an opening
parenthesis. So nothing is read inside a literal without parentheses, and nothing in code that
does not hold the word. A part of a text in which nothing is read is quiet, and the search for
the construct passes over it.
-/

import BrowserPlan.Proofs.Action.Reading

namespace BrowserPlan

/-! ### What every construct starts with -/

/-- The word with which a construct starts. -/
def Construct.anchor : Construct → Text
  | .navigate => "driver"
  | .fill => "findElement"
  | .clear => "findElement"
  | .click => "findElement"
  | .getText => "findElement"
  | .assertText => "assertEquals"
  | .assertTrue => "assertTrue"
  | .assertFalse => "assertFalse"
  | .wait => "ExpectedConditions"
  | .countElements => "findElements"

/-- Whether an opening parenthesis stands before any quote. -/
def opensFirst : Text → Bool
  | [] => false
  | char :: text => char = '(' || char ≠ '"' && opensFirst text

/-- A front without a quote does not hide that a parenthesis comes first. -/
theorem opensFirst_append {front rest : Text} (noQuote : '"' ∉ front)
    (opens : opensFirst rest = true) : opensFirst (front ++ rest) = true := by
  induction front with
  | nil => exact opens
  | cons char front inductionHypothesis =>
    have notQuote : char ≠ '"' := fun equal => noQuote (equal ▸ List.mem_cons_self)
    have further := inductionHypothesis fun member => noQuote (List.mem_cons_of_mem _ member)
    rw [List.cons_append, opensFirst, further]
    simp [notQuote]

/-- A literal opens no parenthesis before its quote. -/
theorem opensFirst_of_quote {front : Text} (noOpening : '(' ∉ front) (quote : '"' ∈ front)
    (rest : Text) : opensFirst (front ++ rest) = false := by
  induction front with
  | nil => cases quote
  | cons char front inductionHypothesis =>
    have notOpening : char ≠ '(' := fun equal => noOpening (equal ▸ List.mem_cons_self)
    rw [List.cons_append, opensFirst]
    rcases List.mem_cons.mp quote with equal | member
    · simp [← equal]
    · have further := inductionHypothesis
        (fun opening => noOpening (List.mem_cons_of_mem _ opening)) member
      simp [further, notOpening]

theorem opensFirst_of_dropBlanks {text : Text} (opens : opensFirst (Text.dropBlanks text) = true) :
    opensFirst text = true := by
  have noQuote : '"' ∉ text.takeWhile Text.isBlank := fun member =>
    absurd (List.mem_takeWhile_imp member) (by decide)
  have opens := opensFirst_append noQuote opens
  rwa [Text.dropBlanks, List.takeWhile_append_dropWhile] at opens

theorem opensFirst_of_after? {opening text rest : Text} (noQuote : '"' ∉ opening)
    (read : Text.after? opening text = some rest) (opens : opensFirst rest = true) :
    opensFirst text = true := by
  rw [Text.after?_eq_some_iff.mp read]
  exact opensFirst_append noQuote opens

theorem opensFirst_of_parenthesis {text rest : Text}
    (read : Text.after? "(" (Text.dropBlanks text) = some rest) : opensFirst text = true := by
  refine opensFirst_of_dropBlanks ?_
  rw [Text.after?_eq_some_iff.mp read]
  rfl

theorem opensFirst_of_readOpening {text rest : Text}
    (read : Locator.readOpening text = some rest) : opensFirst text = true := by
  obtain ⟨_, parenthesis, _⟩ := Option.map_eq_some_iff.mp read
  exact opensFirst_of_parenthesis parenthesis

theorem opensFirst_of_readPoint {text rest : Text} (read : readPoint text = some rest)
    (opens : opensFirst rest = true) : opensFirst text = true := by
  obtain ⟨behind, point, rfl⟩ := Option.map_eq_some_iff.mp read
  exact opensFirst_of_dropBlanks
    (opensFirst_of_after? (by decide) point (opensFirst_of_dropBlanks opens))

theorem opensFirst_of_readNoArguments {text rest : Text}
    (read : readNoArguments text = some rest) : opensFirst text = true := by
  obtain ⟨_, opened, _⟩ := Option.bind_eq_some_iff.mp read
  exact opensFirst_of_parenthesis opened

theorem opensFirst_of_readOpenPage {text rest : Text} (read : readOpenPage text = some rest)
    (opens : opensFirst rest = true) : opensFirst text = true := by
  obtain ⟨method, point, read⟩ := Option.bind_eq_some_iff.mp read
  refine opensFirst_of_readPoint point ?_
  split at read
  · rename_i behind get
    cases read
    exact opensFirst_of_after? (by decide) get opens
  · obtain ⟨behind, navigate, read⟩ := Option.bind_eq_some_iff.mp read
    obtain ⟨_, arguments, _⟩ := Option.bind_eq_some_iff.mp read
    exact opensFirst_of_after? (by decide) navigate (opensFirst_of_readNoArguments arguments)

/-- Whether a text starts with a word and goes on to an opening parenthesis before any quote. -/
def Starts (word text : Text) : Prop :=
  ∃ rest, Text.after? word text = some rest ∧ opensFirst rest = true

theorem starts_of_readLookup {function text rest selector : Text}
    (read : readLookup function text = some (selector, rest)) : Starts function text := by
  obtain ⟨behind, word, read⟩ := Option.bind_eq_some_iff.mp read
  obtain ⟨_, opening, _⟩ := Option.bind_eq_some_iff.mp read
  exact ⟨behind, word, opensFirst_of_readOpening opening⟩

theorem starts_of_readElementCall {method text rest selector : Text}
    (read : readElementCall method text = some (selector, rest)) : Starts "findElement" text := by
  obtain ⟨⟨_, _⟩, element, _⟩ := Option.bind_eq_some_iff.mp read
  exact starts_of_readLookup element

theorem starts_of_readStatement {function text rest argument : Text}
    (read : readStatement function text = some (argument, rest)) : Starts function text := by
  obtain ⟨behind, word, read⟩ := Option.bind_eq_some_iff.mp read
  obtain ⟨_, opened, _⟩ := Option.bind_eq_some_iff.mp read
  exact ⟨behind, word, opensFirst_of_parenthesis opened⟩

theorem starts_of_readNavigate {before : Option Char} {text rest : Text} {action : Action}
    (read : readNavigate before text = some (action, rest)) : Starts "driver" text := by
  unfold readNavigate at read
  split_ifs at read
  obtain ⟨behind, word, read⟩ := Option.bind_eq_some_iff.mp read
  obtain ⟨page, method, read⟩ := Option.bind_eq_some_iff.mp read
  obtain ⟨_, opened, _⟩ := Option.bind_eq_some_iff.mp read
  exact ⟨behind, word, opensFirst_of_readOpenPage method (opensFirst_of_parenthesis opened)⟩

theorem starts_of_readFill {text rest : Text} {action : Action}
    (read : readFill text = some (action, rest)) : Starts "findElement" text := by
  obtain ⟨⟨_, _⟩, element, _⟩ := Option.bind_eq_some_iff.mp read
  exact starts_of_readLookup element

theorem starts_of_readAssertText {text rest : Text} {action : Action}
    (read : readAssertText text = some (action, rest)) : Starts "assertEquals" text := by
  obtain ⟨behind, word, read⟩ := Option.bind_eq_some_iff.mp read
  obtain ⟨_, opening, _⟩ := Option.bind_eq_some_iff.mp read
  exact ⟨behind, word, opensFirst_of_readOpening opening⟩

theorem starts_of_readWait {text rest : Text} {action : Action}
    (read : readWait text = some (action, rest)) : Starts "ExpectedConditions" text := by
  obtain ⟨behind, word, read⟩ := Option.bind_eq_some_iff.mp read
  obtain ⟨named, point, read⟩ := Option.bind_eq_some_iff.mp read
  obtain ⟨⟨condition, opened⟩, name, read⟩ := Option.bind_eq_some_iff.mp read
  obtain ⟨_, opening, _⟩ := Option.bind_eq_some_iff.mp read
  refine ⟨behind, word, opensFirst_of_readPoint point ?_⟩
  obtain ⟨isWord, equal⟩ := Text.eq_append_of_readWord? name
  rw [equal]
  refine opensFirst_append (fun member => ?_) (opensFirst_of_readOpening opening)
  exact absurd (isWord '"' member) (by decide)

theorem starts_of_readCount {text rest : Text} {action : Action}
    (read : readCount text = some (action, rest)) : Starts "findElements" text := by
  obtain ⟨⟨_, _⟩, elements, _⟩ := Option.bind_eq_some_iff.mp read
  exact starts_of_readLookup elements

/-- A construct is read only where its word stands and a parenthesis opens before any quote. -/
theorem Construct.starts_of_read {construct : Construct} {before : Option Char} {text : Text}
    {found : Option Action × Text} (read : construct.read before text = some found) :
    Starts construct.anchor text := by
  cases construct with
  | navigate =>
    obtain ⟨⟨_, _⟩, read, _⟩ := Option.map_eq_some_iff.mp read
    exact starts_of_readNavigate read
  | fill =>
    obtain ⟨⟨_, _⟩, read, _⟩ := Option.map_eq_some_iff.mp read
    exact starts_of_readFill read
  | clear | click | getText =>
    obtain ⟨_, read, _⟩ := Option.map_eq_some_iff.mp read
    obtain ⟨⟨_, _⟩, read, _⟩ := Option.map_eq_some_iff.mp read
    exact starts_of_readElementCall read
  | assertText =>
    obtain ⟨⟨_, _⟩, read, _⟩ := Option.map_eq_some_iff.mp read
    exact starts_of_readAssertText read
  | assertTrue | assertFalse =>
    obtain ⟨⟨_, _⟩, read, _⟩ := Option.map_eq_some_iff.mp read
    exact starts_of_readStatement read
  | wait =>
    obtain ⟨⟨_, _⟩, read, _⟩ := Option.map_eq_some_iff.mp read
    exact starts_of_readWait read
  | countElements =>
    obtain ⟨⟨_, _⟩, read, _⟩ := Option.map_eq_some_iff.mp read
    exact starts_of_readCount read

/-- Nothing is read where the text does not start with the anchor of the construct. -/
theorem Construct.read_eq_none {construct : Construct} {text : Text}
    (never : ¬ Starts construct.anchor text) (before : Option Char) :
    construct.read before text = none :=
  Option.eq_none_iff_forall_not_mem.mpr fun _ read => never (starts_of_read read)

theorem Construct.read_of_absent {construct : Construct} {text : Text}
    (absent : Text.after? construct.anchor text = none) (before : Option Char) :
    construct.read before text = none := by
  refine read_eq_none ?_ before
  rintro ⟨_, found, _⟩
  rw [absent] at found
  cases found

theorem Construct.isWord_of_mem_anchor {construct : Construct} {char : Char}
    (member : char ∈ construct.anchor) : Text.isWord char = true := by
  refine List.all_eq_true.mp ?_ char member
  cases construct <;> rfl

/-! ### Quiet parts of a text -/

/-- Whether a construct is read nowhere in a part of a text, given what follows. -/
def Quiet (construct : Construct) : (part rest : Text) → Prop
  | [], _ => True
  | char :: part, rest =>
      (∀ before, construct.read before (char :: (part ++ rest)) = none) ∧ Quiet construct part rest

/-- Two parts are quiet together if each is before what follows it. -/
theorem Quiet.append {construct : Construct} {front back rest : Text}
    (quietFront : Quiet construct front (back ++ rest)) (quietBack : Quiet construct back rest) :
    Quiet construct (front ++ back) rest := by
  induction front with
  | nil => exact quietBack
  | cons char front inductionHypothesis =>
    refine ⟨fun before => ?_, inductionHypothesis quietFront.2⟩
    show construct.read before (char :: (front ++ back ++ rest)) = none
    rw [List.append_assoc]
    exact quietFront.1 before

theorem Quiet.of_append {construct : Construct} {front back rest : Text}
    (quiet : Quiet construct (front ++ back) rest) : Quiet construct back rest := by
  induction front with
  | nil => exact quiet
  | cons char front inductionHypothesis => exact inductionHypothesis quiet.2

/-- A search passes over a quiet part. -/
theorem Quiet.findFrom {construct : Construct} {part rest : Text}
    (quiet : Quiet construct part rest) (before : Option Char) (position : Nat) :
    Text.findFrom construct.read before position 0 (part ++ rest) =
      Text.findFrom construct.read (part.getLast?.or before) (position + part.length) 0 rest := by
  induction part generalizing before position with
  | nil => rfl
  | cons char part inductionHypothesis =>
    rw [List.cons_append, Text.findFrom_miss (quiet.1 before), inductionHypothesis quiet.2,
      List.getLast?_cons, List.length_cons, Nat.add_assoc, Nat.add_comm 1]
    cases part.getLast? <;> rfl

/-! ### Literals and code -/

/-- Nothing is read in what ends at a quote and holds no opening parenthesis. -/
theorem quiet_of_quote (construct : Construct) {part : Text} (noOpening : '(' ∉ part)
    (ends : part.getLast? = some '"') (rest : Text) : Quiet construct part rest := by
  induction part with
  | nil => trivial
  | cons char part inductionHypothesis =>
    refine ⟨fun before => Construct.read_eq_none ?_ before, ?_⟩
    · rintro ⟨behind, word, opens⟩
      have noQuote : '"' ∉ construct.anchor := fun member =>
        absurd (Construct.isWord_of_mem_anchor member) (by decide)
      have quoted := opensFirst_of_quote noOpening (List.mem_of_getLast? ends) rest
      rw [List.cons_append, opensFirst_of_after? noQuote word opens] at quoted
      cases quoted
    · cases part with
      | nil => trivial
      | cons second part =>
        refine inductionHypothesis (fun member => noOpening (List.mem_cons_of_mem _ member)) ?_
        rw [← ends, List.getLast?_cons_cons]

/-- A literal without a parenthesis is quiet: no anchor in it is followed by its arguments. -/
theorem quiet_literal (construct : Construct) {value : Text} (noOpening : '(' ∉ value)
    (rest : Text) : Quiet construct (Java.literal value) rest := by
  refine quiet_of_quote construct (fun member => noOpening ?_) ?_ rest
  · exact Java.mem_of_mem_literal (by decide) member
  · rw [Java.literal, List.getLast?_concat]

/-- Whether code lacks the word of a construct and does not end inside a word. -/
def Construct.isStrangeTo (construct : Construct) (code : Text) : Bool :=
  !Text.holds construct.anchor code && !code.getLast?.any Text.isWord

/-- Code is strange to a construct if its anchor does not occur and cannot begin at the end either.
-/
theorem isStrangeTo_iff {construct : Construct} {code : Text} :
    construct.isStrangeTo code = true ↔ ¬ construct.anchor <:+: code ∧
      ∀ char, code.getLast? = some char → Text.isWord char = false := by
  rw [Construct.isStrangeTo, Bool.and_eq_true, Bool.not_eq_true', Bool.not_eq_true',
    ← Bool.not_eq_true, Text.holds_iff, Option.any_eq_false]

/-- Nothing is read in code that lacks the word. -/
theorem quiet_of_code {construct : Construct} {code : Text}
    (strange : construct.isStrangeTo code = true) (rest : Text) : Quiet construct code rest := by
  induction code with
  | nil => trivial
  | cons char code inductionHypothesis =>
    obtain ⟨lacks, ends⟩ := isStrangeTo_iff.mp strange
    refine ⟨fun before => Construct.read_eq_none ?_ before, ?_⟩
    · rintro ⟨behind, word, _⟩
      have equal := Text.after?_eq_some_iff.mp word
      rw [← List.cons_append] at equal
      rcases List.append_eq_append_iff.mp equal with ⟨middle, anchor, _⟩ | ⟨middle, whole, _⟩
      · -- The word would have to end behind the code, inside a word.
        have last : (char :: code).getLast (List.cons_ne_nil _ _) ∈ construct.anchor :=
          anchor ▸ List.mem_append_left middle (List.getLast_mem _)
        have isWord := Construct.isWord_of_mem_anchor last
        rw [ends _ (List.getLast?_eq_some_getLast _)] at isWord
        cases isWord
      · exact lacks ⟨[], middle, whole.symm⟩
    · cases code with
      | nil => trivial
      | cons second code =>
        refine inductionHypothesis
          (isStrangeTo_iff.mpr ⟨fun held => lacks ?_, fun last equal => ?_⟩)
        · exact held.trans (List.suffix_cons char _).isInfix
        · exact ends last (by rw [List.getLast?_cons_cons, equal])

/-! ### Words -/

theorem readOpened_of_word {char : Char} (word : Text.isWord char = true) (text : Text) :
    readOpened (char :: text) = none := by
  have notOpening : '(' ≠ char := by
    rintro rfl
    exact absurd word (by decide)
  rw [readOpened, Text.dropBlanks_cons (Text.isBlank_eq_false_of_isWord word)]
  exact if_neg notOpening

theorem readPoint_of_word {char : Char} (word : Text.isWord char = true) (text : Text) :
    readPoint (char :: text) = none := by
  have notPoint : '.' ≠ char := by
    rintro rfl
    exact absurd word (by decide)
  rw [readPoint, Text.dropBlanks_cons (Text.isBlank_eq_false_of_isWord word)]
  exact congrArg (Option.map _) (if_neg notPoint)

theorem readOpening_eq_none {text : Text} (notOpened : readOpened text = none) :
    Locator.readOpening text = none := by
  rw [Locator.readOpening, ← readOpened, notOpened]
  rfl

theorem readLookup_eq_none {rest : Text} (notOpened : readOpened rest = none) (function : Text) :
    readLookup function (function ++ rest) = none := by
  rw [readLookup, Text.after?_append, Option.bind_eq_bind, Option.bind_some,
    readOpening_eq_none notOpened]
  rfl

theorem readStatement_eq_none {rest : Text} (notOpened : readOpened rest = none)
    (function : Text) : readStatement function (function ++ rest) = none := by
  rw [readStatement, Text.after?_append, Option.bind_eq_bind, Option.bind_some, notOpened]
  rfl

theorem readNavigate_eq_none {rest : Text} (noPoint : readPoint rest = none)
    (before : Option Char) : readNavigate before ("driver" ++ rest) = none := by
  rw [readNavigate]
  split_ifs
  · rfl
  · rw [Text.after?_append, Option.bind_eq_bind, Option.bind_some, readOpenPage, noPoint]
    rfl

theorem readWait_eq_none {rest : Text} (noPoint : readPoint rest = none) :
    readWait ("ExpectedConditions" ++ rest) = none := by
  rw [readWait, Text.after?_append, Option.bind_eq_bind, Option.bind_some, noPoint]
  rfl

theorem readAssertText_eq_none {rest : Text} (notOpened : readOpened rest = none) :
    readAssertText ("assertEquals" ++ rest) = none := by
  rw [readAssertText, Text.after?_append, Option.bind_eq_bind, Option.bind_some,
    readOpening_eq_none notOpened]
  rfl

/-- Nothing is read where the word of a construct goes on. -/
theorem Construct.read_of_word (construct : Construct) {char : Char}
    (word : Text.isWord char = true) (before : Option Char) (text : Text) :
    construct.read before (construct.anchor ++ char :: text) = none := by
  have notOpened := readOpened_of_word word text
  have noPoint := readPoint_of_word word text
  have noElement : readElement ("findElement" ++ char :: text) = none :=
    readLookup_eq_none notOpened "findElement"
  cases construct with
  | navigate => exact congrArg (Option.map _) (readNavigate_eq_none noPoint before)
  | fill =>
    show Option.map _ (readFill ("findElement" ++ char :: text)) = none
    rw [readFill, noElement]
    rfl
  | clear | click | getText =>
    show Option.map _ (Option.map _ (readElementCall _ ("findElement" ++ char :: text))) = none
    rw [readElementCall, noElement]
    rfl
  | assertText => exact congrArg (Option.map _) (readAssertText_eq_none notOpened)
  | assertTrue | assertFalse => exact congrArg (Option.map _) (readStatement_eq_none notOpened _)
  | wait => exact congrArg (Option.map _) (readWait_eq_none noPoint)
  | countElements =>
    show Option.map _ (readCount ("findElements" ++ char :: text)) = none
    rw [readCount, readLookup_eq_none notOpened]
    rfl

/-- Nothing is read at a word that is called and is not the one of the construct. -/
theorem Construct.read_of_other_word {construct : Construct} {word : Text}
    (isWord : ∀ char ∈ word, Text.isWord char = true) (other : word ≠ construct.anchor)
    (before : Option Char) (text : Text) : construct.read before (word ++ '(' :: text) = none := by
  cases starts : Text.after? construct.anchor (word ++ '(' :: text) with
  | none => exact read_of_absent starts before
  | some behind =>
    have equal := Text.after?_eq_some_iff.mp starts
    rcases List.append_eq_append_iff.mp equal with ⟨middle, anchor, called⟩ | ⟨middle, whole, left⟩
    · cases middle with
      | nil => exact absurd (anchor.trans (List.append_nil word)).symm other
      | cons char middle =>
        have opening : char ∈ construct.anchor :=
          anchor ▸ List.mem_append_right word List.mem_cons_self
        rw [← (List.cons.inj called).1] at opening
        exact absurd (isWord_of_mem_anchor opening) (by decide)
    · cases middle with
      | nil => exact absurd (whole.trans (List.append_nil construct.anchor)) other
      | cons char middle =>
        have goesOn : Text.isWord char = true :=
          isWord char (whole ▸ List.mem_append_right _ List.mem_cons_self)
        rw [equal, left]
        exact construct.read_of_word goesOn before _

/-- A word that is called is quiet, if nothing is read at its end. -/
theorem quiet_word {construct : Construct} {word text : Text}
    (isWord : ∀ char ∈ word, Text.isWord char = true)
    (miss : construct.anchor <:+ word →
      ∀ before, construct.read before (construct.anchor ++ '(' :: text) = none) :
    Quiet construct word ('(' :: text) := by
  induction word with
  | nil => trivial
  | cons char word inductionHypothesis =>
    refine ⟨fun before => ?_, inductionHypothesis
      (fun other member => isWord other (List.mem_cons_of_mem _ member))
      (fun ends => miss (ends.trans (List.suffix_cons char word)))⟩
    by_cases equal : char :: word = construct.anchor
    · rw [← List.cons_append, equal]
      exact miss (equal ▸ List.suffix_rfl) before
    · exact Construct.read_of_other_word isWord equal before text

/-- What stands in a word before the one of the construct is quiet. -/
theorem quiet_word_before (construct : Construct) {front : Text}
    (isWord : ∀ char ∈ front, Text.isWord char = true) (text : Text) :
    Quiet construct front (construct.anchor ++ '(' :: text) := by
  induction front with
  | nil => trivial
  | cons char front inductionHypothesis =>
    refine ⟨fun before => ?_, inductionHypothesis fun other member =>
      isWord other (List.mem_cons_of_mem _ member)⟩
    have longer : char :: front ++ construct.anchor ≠ construct.anchor := by
      intro equal
      have lengths := congrArg List.length equal
      simp only [List.length_append, List.length_cons] at lengths
      omega
    rw [← List.append_assoc, ← List.cons_append, ← List.cons_append]
    refine Construct.read_of_other_word (fun other member => ?_) longer before text
    rcases List.mem_append.mp member with inFront | inAnchor
    · exact isWord other inFront
    · exact Construct.isWord_of_mem_anchor inAnchor

/-! ### Elements -/

/-- A target is quiet if its value has no parenthesis. -/
theorem quiet_target (construct : Construct) {target : Target} (noOpening : '(' ∉ target.value)
    (rest : Text) : Quiet construct target.text rest := by
  have code : construct.isStrangeTo ("By." ++ (target.kind.word ++ "(")) = true := by
    cases construct <;> cases target.kind <;> rfl
  have closing : construct.isStrangeTo ")" = true := by
    cases construct <;> rfl
  have equal : "By." ++ (target.kind.word ++ "(") ++ (Java.literal target.value ++ ")") =
      target.text := by
    rw [List.append_assoc, List.append_assoc]
    rfl
  rw [← equal]
  exact (quiet_of_code code _).append
    ((quiet_literal construct noOpening _).append (quiet_of_code closing rest))

/-- The driver is quiet before the look-up of an element. -/
theorem quiet_driver (construct : Construct) (rest : Text) :
    Quiet construct "driver." ("findElement" ++ rest) := by
  cases construct with
  | navigate =>
    refine ⟨fun before => ?_, @quiet_of_code .navigate "river." rfl _⟩
    show Option.map _ (readNavigate before ("driver" ++ (".findElement" ++ rest))) = none
    rw [readNavigate]
    split_ifs
    · rfl
    · rw [Text.after?_append]
      rfl
  | fill | clear | click | getText | assertText | assertTrue | assertFalse | wait
  | countElements => exact quiet_of_code rfl _

/-- A look-up is quiet if nothing is read at its start. -/
theorem quiet_lookup {construct : Construct} {target : Target}
    (noOpening : '(' ∉ target.value) {rest : Text}
    (miss : ∀ before, construct.read before (target.lookup ++ rest) = none) :
    Quiet construct target.lookup rest := by
  have function : construct.isStrangeTo "indElement(" = true := by
    cases construct <;> rfl
  have closing : construct.isStrangeTo ")" = true := by
    cases construct <;> rfl
  exact ⟨miss, (quiet_of_code function _).append
    ((quiet_target construct noOpening _).append (quiet_of_code closing rest))⟩

/-- At the word of a construct that is called on a locator alone nothing is read, unless it is
a statement with one argument. -/
theorem Construct.read_called_on_target {construct : Construct} (notTrue : construct ≠ .assertTrue)
    (notFalse : construct ≠ .assertFalse) (before : Option Char) (target : Target) (rest : Text) :
    construct.read before
      (construct.anchor ++ '(' :: (target.text ++ (")" ++ ')' :: rest))) = none := by
  have element := readLookup_text "findElement" target (')' :: rest)
  cases construct with
  | navigate =>
    have noPoint : readPoint ('(' :: (target.text ++ (")" ++ ')' :: rest))) = none := rfl
    exact congrArg (Option.map _) (readNavigate_eq_none noPoint before)
  | fill =>
    show Option.map _ (readFill ("findElement" ++ ("(" ++ (target.text ++ (")" ++ ')' :: rest))))) =
      none
    rw [readFill, readElement, element]
    rfl
  | clear | click | getText =>
    show Option.map _ (Option.map _ (readElementCall _
      ("findElement" ++ ("(" ++ (target.text ++ (")" ++ ')' :: rest)))))) = none
    rw [readElementCall, readElement, element]
    rfl
  | assertText => rfl
  | assertTrue => exact absurd rfl notTrue
  | assertFalse => exact absurd rfl notFalse
  | wait => rfl
  | countElements =>
    show Option.map _ (readCount
      ("findElements" ++ ("(" ++ (target.text ++ (")" ++ ')' :: rest))))) = none
    rw [readCount, readLookup_text "findElements" target (')' :: rest)]
    rfl

end BrowserPlan
