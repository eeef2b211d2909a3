/-
This file says what is relied on of a screen, and proves how a line in plain characters is printed.

A tag stands in brackets and the name of a picture between two colons, so a line with neither has
nothing that a screen could take for more than it is. It may still break the line where its width
ends, and drop or add blanks there; all other characters are shown, and in their order.
-/

import BrowserPlan.Command.Run
import BrowserPlan.Proofs.Text.Blank
import BrowserPlan.Proofs.Text.Half

namespace BrowserPlan

/-! ### Text apart from blanks -/

/-- The characters of a text that are no blanks. -/
def Text.inked (text : Text) : Text :=
  text.filter (!Text.isBlank ·)

theorem Text.inked_append (text more : Text) : inked (text ++ more) = inked text ++ inked more :=
  List.filter_append text more

/-! ### What is relied on -/

/-- Whether a character means nothing but itself to a screen, if it is not one of two colons. -/
def isPlainOnScreen (char : Char) : Bool :=
  char.isAlphanum || char = ' ' || char = ':'

/-- Whether a line holds neither a tag nor the name of a picture. -/
def isPlainLine (line : Text) : Bool :=
  line.all isPlainOnScreen && line.count ':' ≤ 1

/-- A screen that keeps to its manual: plain lines are shown as they are, apart from blanks. -/
structure Screen.IsDocumented (screen : Screen) : Prop where
  line {line : Text} : isPlainLine line = true →
    ∃ shown, screen.line line = .ok shown ∧ Text.inked shown = Text.inked line

/-! ### Printing -/

theorem Utf8.halfFaultFrom_of_holdsNoHalf {text : Text} (noHalf : Text.HoldsNoHalf text)
    (isHeld : Nat → Bool) (position : Nat) : halfFaultFrom isHeld position text = none := by
  induction text generalizing position with
  | nil => rfl
  | cons char text inductionHypothesis =>
    obtain ⟨here, later⟩ := List.forall_mem_cons.mp noHalf
    rw [halfFaultFrom, halfRun?, here, inductionHypothesis later]
    rfl

/-- A text without halves has bytes. -/
theorem Utf8.halfFault?_of_holdsNoHalf {text : Text} (noHalf : Text.HoldsNoHalf text) :
    halfFault? text = none :=
  halfFaultFrom_of_holdsNoHalf noHalf _ 0

/-- Characters far below those that stand for halves. -/
theorem Text.half?_of_toNat_lt {char : Char} (small : char.toNat < 0x10000) :
    Text.half? char = none := by
  refine Option.eq_none_iff_forall_ne_some.mpr fun unit half => ?_
  rw [(half?_eq_some_iff.mp half).2, halfDistance] at small
  omega

theorem Text.toNat_lt_of_isBlank {char : Char} (blank : isBlank char = true) :
    char.toNat < 0x10000 := by
  simp only [isBlank, Bool.or_eq_true, Bool.and_eq_true, decide_eq_true_eq, beq_iff_eq] at blank
  omega

theorem toNat_of_isAlphanum {char : Char} (alphanum : char.isAlphanum = true) :
    48 ≤ char.toNat ∧ char.toNat ≤ 57 ∨ 65 ≤ char.toNat ∧ char.toNat ≤ 90 ∨
      97 ≤ char.toNat ∧ char.toNat ≤ 122 := by
  change (decide ('A'.val ≤ char.val ∧ char.val ≤ 'Z'.val) ||
    ('a'.val ≤ char.val && char.val ≤ 'z'.val) ||
    ('0'.val ≤ char.val && char.val ≤ '9'.val)) = true at alphanum
  simp only [Bool.or_eq_true, Bool.and_eq_true, decide_eq_true_eq,
    UInt32.le_iff_toNat_le] at alphanum
  exact alphanum.symm.imp_right id

/-- A plain character is a letter, a digit, a space or a colon. -/
theorem toNat_of_isPlainOnScreen {char : Char} (isPlain : isPlainOnScreen char = true) :
    char.toNat = 32 ∨ 48 ≤ char.toNat ∧ char.toNat ≤ 58 ∨ 65 ≤ char.toNat ∧ char.toNat ≤ 90 ∨
      97 ≤ char.toNat ∧ char.toNat ≤ 122 := by
  simp only [isPlainOnScreen, Bool.or_eq_true, decide_eq_true_eq] at isPlain
  obtain (alphanum | rfl) | rfl := isPlain
  · have range := toNat_of_isAlphanum alphanum
    omega
  · exact .inl rfl
  · exact .inr (.inl (by decide))

/-- What is shown of a plain line has bytes: a half of a UTF-16 pair is neither plain nor blank. -/
theorem holdsNoHalf_of_inked {shown line : Text} (isPlain : isPlainLine line = true)
    (same : Text.inked shown = Text.inked line) : Text.HoldsNoHalf shown := by
  intro char member
  refine Text.half?_of_toNat_lt ?_
  cases blank : Text.isBlank char with
  | true => exact Text.toNat_lt_of_isBlank blank
  | false =>
    have inked : char ∈ Text.inked shown := List.mem_filter.mpr ⟨member, by rw [blank]; rfl⟩
    rw [same] at inked
    have inLine := (List.mem_filter.mp inked).1
    have range := toNat_of_isPlainOnScreen
      (List.all_eq_true.mp (Bool.and_eq_true_iff.mp isPlain).1 char inLine)
    omega

theorem writeShown_of_holdsNoHalf {shown : Except ScreenFault Text} {text : Text}
    (isShown : shown = .ok text) (noHalf : Text.HoldsNoHalf text) :
    writeShown shown = .ok text := by
  rw [isShown, writeShown, Utf8.halfFault?_of_holdsNoHalf noHalf]

/-- A plain line is shown and written. -/
theorem writeShown_line {screen : Screen} (isDocumented : screen.IsDocumented) {line : Text}
    (isPlain : isPlainLine line = true) :
    ∃ shown, writeShown (screen.line line) = .ok shown ∧ Text.inked shown = Text.inked line := by
  obtain ⟨shown, isShown, same⟩ := isDocumented.line isPlain
  exact ⟨shown, writeShown_of_holdsNoHalf isShown (holdsNoHalf_of_inked isPlain same), same⟩

/-- Nothing is printed of a message whose table cannot be shown or written. -/
theorem Message.print_of_error {message : Message} {screen : Screen} {table : Table} {crash : Crash}
    (isTable : message.table? = some table)
    (fails : writeShown (screen.table table) = .error crash) :
    message.print screen = { code := 1, output := [], crash? := some crash } := by
  rw [print, isTable, Option.elim, fails]

/-- The lines of a message come below its table. -/
theorem Message.print_of_ok {message : Message} {screen : Screen} {table : Table}
    {shown printed : Text} (isTable : message.table? = some table)
    (written : writeShown (screen.table table) = .ok shown)
    (all : message.printLines screen message.lines = (printed, none)) :
    message.print screen = { code := message.code, table := shown, output := printed } := by
  rw [print, isTable, Option.elim, written]
  simp only [all]
  rfl

/-- Plain lines are all printed, one after the other. -/
theorem Message.printLines_of_isPlainLine (message : Message) {screen : Screen}
    (isDocumented : screen.IsDocumented) (styled : message.styled = true) {lines : List Text}
    (isPlain : ∀ line ∈ lines, isPlainLine line = true) :
    ∃ printed, message.printLines screen lines = (printed, none) ∧
      Text.inked printed = lines.flatMap Text.inked := by
  induction lines with
  | nil => exact ⟨[], rfl, rfl⟩
  | cons line lines inductionHypothesis =>
    obtain ⟨here, later⟩ := List.forall_mem_cons.mp isPlain
    obtain ⟨shown, written, same⟩ := writeShown_line isDocumented here
    obtain ⟨printed, others, sameLater⟩ := inductionHypothesis later
    refine ⟨shown ++ printed, ?_, ?_⟩
    · rw [printLines, Message.shown, if_pos styled, written, others]
    · rw [Text.inked_append, same, sameLater, List.flatMap_cons]

end BrowserPlan
