/-
This file proves that a brace too many is always reported, wherever in the code of a text it is put.

Between two signs of code the walk has nothing left to pass, and no sign before that place goes on
behind it. A brace that is put there completes no sign either. So the text in front is painted as it
was, the brace counts, and behind it the walk starts afresh as it did before. The depth at the end
is then off by the weight of the brace.
-/

import BrowserPlan.Java.Syntax
import BrowserPlan.Proofs.Java.LineEnd
import BrowserPlan.Proofs.Java.Standalone

namespace BrowserPlan.Java

/-! ### Places between two signs of code -/

/-- Whether the walk stands between two signs of code. -/
def Cursor.IsBetween (cursor : Cursor) : Prop :=
  cursor.region = .code ∧ cursor.owed = 0

/-- Where the walk over a text stands at a position. -/
def cursorAt (text : Text) (position : Nat) : Cursor :=
  passOver .start (text.take position) (text.drop position)

/-- Whether the walk over a text visits a position in code. It visits the end of the text in code if
it ends there. -/
def VisitsCode (text : Text) (position : Nat) : Prop :=
  position ≤ text.length ∧ (cursorAt text position).region = .code ∧
    (position ≠ text.length → (cursorAt text position).owed = 0)

instance (text : Text) (position : Nat) : Decidable (VisitsCode text position) :=
  inferInstanceAs (Decidable (_ ∧ _))

/-- At the end of a text no sign is left to be passed. -/
theorem owed_passOver_nil (text : Text) : (passOver .start text []).owed = 0 := by
  have owes : (passOver .start text []).Owes [] :=
    Cursor.Owes.passOver (Cursor.owes_of_owed_eq_zero rfl _)
  exact Nat.le_zero.mp owes.1

/-- Where code is visited nothing is owed and no literal or comment is open. -/
theorem VisitsCode.isBetween {text : Text} {position : Nat} (visits : VisitsCode text position) :
    (cursorAt text position).IsBetween := by
  obtain ⟨_, region, passed⟩ := visits
  refine ⟨region, ?_⟩
  by_cases ends : position = text.length
  · rw [cursorAt, ends, List.drop_length]
    exact owed_passOver_nil _
  · exact passed ends

/-! ### A brace is not seen from before -/

section Brace

variable {brace : Char}

theorem ne_of_isBrace (isBrace : weight brace ≠ 0) :
    brace ≠ '"' ∧ brace ≠ '/' ∧ brace ≠ '*' := by
  rcases weight_ne_zero_iff.mp isBrace with rfl | rfl <;> decide

/-- A sign that ends at a place between two signs of code does not see a brace that is put there. -/
theorem sign_brace_next (isBrace : weight brace ≠ 0) {region : Region} {char : Char} {back : Text}
    (ends : (sign region char back).IsBetween) :
    sign region char (brace :: back) = sign region char back := by
  obtain ⟨notQuote, notSlash, notStar⟩ := ne_of_isBrace isBrace
  have next : (lookahead (brace :: back)).1 = some brace := lookahead_fst _
  obtain ⟨inCode, passed⟩ := ends
  cases region with
  | code =>
    rw [sign, codeSign_eq] at inCode ⊢
    rw [sign, codeSign_eq char back, next]
    split_ifs at inCode with line block text quote apostrophe
    simp [line, block, quote, apostrophe, notSlash, notStar]
  | string | char =>
    rw [sign, quotedSign_eq] at inCode ⊢
    rw [sign, quotedSign_eq _ _ char back]
    split_ifs at inCode with escape closing
    have notBackslash : char ≠ '\\' := by
      rintro rfl
      rcases closing with quote | newline
      · exact absurd quote (by decide)
      · exact absurd newline (by decide)
    simp [notBackslash]
  | textBlock =>
    -- The marks at the ends of a text block are three characters long, those of a comment two.
    rw [sign, textBlockSign_eq] at inCode passed
    split_ifs at inCode passed
  | blockComment =>
    rw [sign, blockCommentSign_eq] at inCode passed
    split_ifs at inCode passed
  | lineComment => rfl

/-- If a sign is not one of three quotes, it makes no difference to it that quotes ahead of it are
parted. -/
theorem sign_eq_of_parted {region : Region} {char : Char} {following other : Text}
    (head : (lookahead other).1 = (lookahead following).1) (parted : (lookahead other).2 = false)
    (short : (sign region char following).owed ≠ 2) :
    sign region char other = sign region char following := by
  cases region with
  | code =>
    have notOpening : ¬ (char = '"' ∧ (lookahead following).2 = true) := by
      rintro ⟨rfl, quotes⟩
      exact short (by simp [sign, codeSign_eq, quotes])
    simp [sign, codeSign_eq, head, parted, notOpening]
  | string | char => rw [sign, sign, quotedSign_eq, quotedSign_eq _ _ char following, head]
  | textBlock =>
    have notClosing : ¬ (char = '"' ∧ (lookahead following).2 = true) := by
      rintro ⟨rfl, quotes⟩
      exact short (by simp [sign, textBlockSign_eq, quotes])
    simp [sign, textBlockSign_eq, head, parted, notClosing]
  | lineComment => rfl
  | blockComment => rw [sign, sign, blockCommentSign_eq, blockCommentSign_eq char following, head]

/-- Where the walk comes to stand between two signs of code, it is not led there any other way by a
brace that is put there. -/
theorem Cursor.step_brace_ahead (isBrace : weight brace ≠ 0) {cursor : Cursor} {char : Char}
    {front back : Text} (ends : (passOver cursor (char :: front) back).IsBetween) :
    cursor.step char (front ++ brace :: back) = cursor.step char (front ++ back) := by
  obtain ⟨region, owed, paint⟩ := cursor
  cases owed with
  | succ owed => rfl
  | zero =>
    match front with
    | [] => exact sign_brace_next isBrace ends
    | [next] =>
      have parted : (lookahead (next :: brace :: back)).2 = false := by
        simp [lookahead, (ne_of_isBrace isBrace).1]
      have head : (lookahead (next :: brace :: back)).1 = (lookahead (next :: back)).1 := by
        rw [lookahead_fst, lookahead_fst, List.head?_cons, List.head?_cons]
      refine sign_eq_of_parted head parted ?_
      -- Of three quotes the last one would still be owed behind the next character.
      intro three
      have last : ((sign region char (next :: back)).step next back).owed = 0 := ends.2
      have three : (sign region char (next :: back)).owed = 2 := three
      rw [Cursor.step, three] at last
      cases last
    | _ :: _ :: _ => exact sign_eq_of_lookahead region char rfl

/-- The text in front of such a place is painted as it was, and the walk comes there as it did. -/
theorem over_brace (isBrace : weight brace ≠ 0) {cursor : Cursor} {front back : Text}
    (ends : (passOver cursor front back).IsBetween) :
    cellsOver cursor front (brace :: back) = cellsOver cursor front back ∧
      passOver cursor front (brace :: back) = passOver cursor front back := by
  induction front generalizing cursor with
  | nil => exact ⟨rfl, rfl⟩
  | cons char front inductionHypothesis =>
    have step := Cursor.step_brace_ahead isBrace ends
    obtain ⟨painted, stands⟩ := @inductionHypothesis (cursor.step char (front ++ back)) ends
    rw [cellsOver, passOver, step]
    exact ⟨congrArg (List.cons _) painted, stands⟩

/-! ### A brace that is put in -/

/-- A list with an item put in at a position. -/
def inserted {Item : Type} (items : List Item) (position : Nat) (item : Item) : List Item :=
  items.take position ++ item :: items.drop position

theorem map_inserted {Item Image : Type} (function : Item → Image) (items : List Item)
    (position : Nat) (item : Item) :
    (inserted items position item).map function =
      inserted (items.map function) position (function item) := by
  rw [inserted, inserted, List.map_append, List.map_cons, List.map_take, List.map_drop]

theorem balance_inserted (text : Text) (position : Nat) (char : Char) :
    balance (inserted text position char) = balance text + weight char := by
  conv_rhs => rw [← List.take_append_drop position text]
  rw [inserted, balance_append, balance_append, balance_cons]
  omega

/-- Code goes on behind a brace. -/
theorem step_brace (isBrace : weight brace ≠ 0) {cursor : Cursor} (between : cursor.IsBetween)
    (rest : Text) : cursor.step brace rest = .start := by
  obtain ⟨region, passed⟩ := between
  unfold Cursor.step
  rw [passed, region]
  rcases weight_ne_zero_iff.mp isBrace with rfl | rfl <;> rfl

/-- A brace that is put in where the walk visits code is painted as one that counts, and all the
rest is painted as it was. -/
theorem VisitsCode.cells_inserted {text : Text} {position : Nat} (visits : VisitsCode text position)
    (isBrace : weight brace ≠ 0) :
    cells (inserted text position brace) =
      inserted (cells text) position ⟨brace, .code, .plain⟩ := by
  have between : (passOver .start (text.take position) (text.drop position)).IsBetween :=
    visits.isBetween
  obtain ⟨painted, stands⟩ := over_brace isBrace between
  have length : (cellsOver .start (text.take position) (text.drop position)).length = position := by
    rw [length_cellsOver, List.length_take, Nat.min_eq_left visits.1]
  have whole : cells text =
      cellsOver .start (text.take position) (text.drop position) ++ cells (text.drop position) := by
    conv_lhs => rw [← List.take_append_drop position text]
    rw [cells, cellsFrom_append, ← cellsFrom_eq_cells between.1 between.2]
  rw [inserted, inserted, whole, List.take_left' length, List.drop_left' length, cells,
    cellsFrom_append, painted, stands, cellsFrom_cons, step_brace isBrace between, between.1]
  rfl

/-- A brace that is inserted into code changes the depth by its weight. -/
theorem VisitsCode.depth_inserted {text : Text} {position : Nat} (visits : VisitsCode text position)
    (isBrace : weight brace ≠ 0) :
    (scan .full (inserted text position brace)).depth = (scan .full text).depth + weight brace := by
  rw [depth_scan, depth_scan, masked_eq, masked_eq, visits.cells_inserted isBrace, map_inserted,
    balance_inserted]
  rfl

end Brace

/-! ### What is reported -/

theorem mem_complain {Complaint : Type} {condition : Bool} (holds : condition = true)
    (complaint : Complaint) : complaint ∈ complain condition complaint := by
  rw [complain, if_pos holds]
  exact List.mem_singleton_self complaint

/-- A text that ends at another depth than it starts is reported. -/
theorem unbalanced_mem_errors {text : Text} (unbalanced : (scan .full text).depth ≠ 0)
    (expected : Int) :
    .unbalanced (scan .full text).depth ∈ (checkSyntax text expected).errors := by
  refine List.mem_append_left _ ?_
  rw [balanceErrors]
  exact List.mem_append_left _ (List.mem_append_left _ (List.mem_append_right _
    (mem_complain (decide_eq_true unbalanced) _)))

theorem depth_eq_zero_of_valid {text : Text} {expected : Int}
    (valid : (checkSyntax text expected).valid = true) : (scan .full text).depth = 0 := by
  by_contra unbalanced
  have reported := unbalanced_mem_errors unbalanced expected
  rw [List.isEmpty_iff.mp valid] at reported
  cases reported

theorem valid_eq_false_of_mem {report : SyntaxReport} {error : SyntaxError}
    (member : error ∈ report.errors) : report.valid = false :=
  List.isEmpty_eq_false_iff_exists_mem.mpr ⟨error, member⟩

/-- If a text is valid, and a brace is put in anywhere in its code, the text is no more valid: it is
reported that its braces are unbalanced, and by how much. -/
theorem brace_inserted_reported {text : Text} {expected : Int}
    (valid : (checkSyntax text expected).valid = true) {position : Nat}
    (visits : VisitsCode text position) {brace : Char}
    (isBrace : brace = '\x7b' ∨ brace = '\x7d') (other : Int) :
    (checkSyntax (inserted text position brace) other).valid = false ∧
      .unbalanced (weight brace) ∈ (checkSyntax (inserted text position brace) other).errors ∧
      ("Unbalanced braces" : Text) <+: (SyntaxError.unbalanced (weight brace)).message := by
  have counts : weight brace ≠ 0 := weight_ne_zero_iff.mpr isBrace
  have depth : (scan .full (inserted text position brace)).depth = weight brace := by
    rw [visits.depth_inserted counts, depth_eq_zero_of_valid valid, Int.zero_add]
  have reported := unbalanced_mem_errors (depth ▸ counts) other
  rw [depth] at reported
  refine ⟨valid_eq_false_of_mem reported, reported, ?_⟩
  rcases isBrace with rfl | rfl
  · exact Text.opensWith_iff.mp (by decide)
  · exact Text.opensWith_iff.mp (by decide)

/-- A test class in which a place is visited in code between a slash and an empty literal, and one
at the very end. -/
def slashedClass : Text :=
  "import org.junit.jupiter.api.Test; public class A \x7b @BeforeEach WebDriver d = a /\"\";" ++
    "@AfterEach @Test void t() \x7b /*\x7d*/ \x7d \x7d"

/-- A place behind a slash is in code as well. -/
theorem brace_inserted_reported_behind_slash :
    (checkSyntax slashedClass 1).valid = true ∧ VisitsCode slashedClass 81 ∧
      slashedClass[80]? = some '/' ∧
      (checkSyntax (inserted slashedClass 81 '\x7d') 1).valid = false := by
  have valid : (checkSyntax slashedClass 1).valid = true := by
    decide +kernel
  have visits : VisitsCode slashedClass 81 := by
    decide +kernel
  exact ⟨valid, visits, by decide +kernel, (brace_inserted_reported valid visits (.inr rfl) 1).1⟩

end BrowserPlan.Java
