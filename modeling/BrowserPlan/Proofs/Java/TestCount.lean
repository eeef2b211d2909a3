/-
This file proves that the counts of tests in a text are ordered: closed tests with nothing in them,
closed tests, all tests, the annotations that show, and all that look like them.

The first counts are parts of each other. A test is found at its annotation, and since no annotation
can start inside of another, all that show are counted, those in the bodies of tests as well. One
that shows is there in the text: the walk stands between two signs of code in front of it and behind
it, and there the mask leaves the end of a word where the text has one.
-/

import BrowserPlan.Java.Syntax
import BrowserPlan.Proofs.Java.Segment
import BrowserPlan.Proofs.Report.Fence
import BrowserPlan.Proofs.Text.Position
import Mathlib.Data.List.Forall2

namespace BrowserPlan.Java

/-! ### Annotations that show -/

/-- The positions of the test annotations that are counted in a text. -/
def testMarks (text : Text) : List Nat :=
  (Text.findAll (fun _ text => (testMark? text).map (Prod.mk ())) text).map Prod.fst

theorem length_testMarks (text : Text) : (testMarks text).length = testCount text :=
  List.length_map _

theorem testMarks_eq (text : Text) : testMarks text = Text.positionsFrom testMark? 0 text :=
  Text.map_fst_of_findings (by decide)
    (Text.findings_findFrom (Text.advances_keyword? (List.cons_ne_nil _ _)) none 0 text)

/-- A character of code that shows under the full mask: no blank, no newline and no quote. -/
def isDistinct (char : Char) : Bool :=
  char ≠ ' ' && char ≠ '\n' && char ≠ '"' && char ≠ '\''

theorem isDistinct_iff {char : Char} :
    isDistinct char = true ↔ char ≠ ' ' ∧ char ≠ '\n' ∧ char ≠ '"' ∧ char ≠ '\'' := by
  simp [isDistinct, and_assoc]

/-- A hidden character shows as a blank or as a newline. -/
theorem Cell.of_shown_distinct {cell : Cell} {char : Char} (distinct : isDistinct char = true)
    (shown : cell.shown .full = char) : cell.paint = .plain ∧ cell.char = char := by
  obtain ⟨notBlank, notNewline, _⟩ := isDistinct_iff.mp distinct
  obtain ⟨inner, region, paint⟩ := cell
  have hidden : paint ≠ .plain → Cell.shown .full ⟨inner, region, paint⟩ = ' ' ∨
      Cell.shown .full ⟨inner, region, paint⟩ = '\n' := by
    intro other
    by_cases newline : inner = '\n' <;> cases paint <;>
      simp_all [Cell.shown, Mask.hides, Mask.full]
  by_cases plain : paint = .plain
  · subst plain
    exact ⟨rfl, shown⟩
  · rw [shown] at hidden
    exact absurd (hidden plain) (not_or_intro notBlank notNewline)

/-- A character that is shown and is none of those that masking writes is in the text. -/
theorem exists_of_shown_distinct {char : Char} {back text : Text} {cursor : Cursor}
    (distinct : isDistinct char = true) (fits : cursor.Fits text)
    (shown : (cellsFrom cursor text).map (Cell.shown .full) = char :: back) :
    ∃ rest, text = char :: rest ∧ back = masked .full rest := by
  cases text with
  | nil => cases shown
  | cons first rest =>
    rw [cellsFrom, List.map_cons] at shown
    obtain ⟨here, further⟩ := List.cons.inj shown
    obtain ⟨plain, rfl⟩ := Cell.of_shown_distinct distinct here
    obtain ⟨_, notNewline, notQuote, notApostrophe⟩ := isDistinct_iff.mp distinct
    obtain ⟨_, _, start⟩ := fits.between notQuote notApostrophe notNewline plain
    rw [start] at further
    exact ⟨rest, rfl, by rw [masked_eq, ← further, cells]⟩

/-- A word that shows is in the text, and behind it the walk goes on as from the start. -/
theorem exists_of_shown_word {word back text : Text} {cursor : Cursor} (notEmpty : word ≠ [])
    (distinct : word.all isDistinct = true) (fits : cursor.Fits text)
    (shown : (cellsFrom cursor text).map (Cell.shown .full) = word ++ back) :
    ∃ rest, text = word ++ rest ∧ back = masked .full rest := by
  induction word generalizing cursor text with
  | nil => exact absurd rfl notEmpty
  | cons char word inductionHypothesis =>
    rw [List.all_cons, Bool.and_eq_true] at distinct
    obtain ⟨rest, rfl, further⟩ := exists_of_shown_distinct distinct.1 fits shown
    cases word with
    | nil => exact ⟨rest, rfl, further⟩
    | cons second word =>
      rw [masked_eq] at further
      obtain ⟨behind, rfl, equal⟩ := inductionHypothesis (List.cons_ne_nil _ _) distinct.2
        (Cursor.fits_of_owed_eq_zero rfl rest) further.symm
      exact ⟨behind, rfl, equal⟩

/-- The end of a word shows where it is. -/
theorem atWordEnd_of_masked {text : Text} (ends : Text.atWordEnd (masked .full text) = true) :
    Text.atWordEnd text = true := by
  cases text with
  | nil => rfl
  | cons char text =>
    by_cases slash : char = '/'
    · rw [slash]
      rfl
    · have plain : (codeSign char text).paint = .plain := by
        rw [codeSign_eq]
        split_ifs <;> simp_all
      have shows : masked .full (char :: text) =
          char :: (cellsFrom (codeSign char text) text).map (Cell.shown .full) := by
        rw [masked_eq]
        show Cell.shown .full ⟨char, .code, (codeSign char text).paint⟩ :: _ = _
        rw [plain]
        rfl
      rw [shows] at ends
      exact ends

/-- A mark that is shown is in the text. -/
theorem testMark?_of_shown {cursor : Cursor} {text : Text} (fits : cursor.Fits text)
    (shown : (testMark? ((cellsFrom cursor text).map (Cell.shown .full))).isSome = true) :
    (testMark? text).isSome = true := by
  obtain ⟨back, found⟩ := Option.isSome_iff_exists.mp shown
  obtain ⟨mark, ends⟩ := Option.filter_eq_some_iff.mp found
  obtain ⟨rest, equal, rfl⟩ :=
    exists_of_shown_word (List.cons_ne_nil _ _) (by decide) fits (Text.after?_eq_some_iff.mp mark)
  rw [equal, testMark?, Text.keyword?]
  show (Option.filter _ (Text.after? "@Test" ("@Test" ++ rest))).isSome = true
  rw [Text.after?_append, Option.filter_some, if_pos (atWordEnd_of_masked ends)]
  rfl

/-- Marks that are shown stand where they do in the text. -/
theorem positionsFrom_shown_sublist {cursor : Cursor} {text : Text} (fits : cursor.Fits text)
    (position : Nat) :
    (Text.positionsFrom testMark? position
        ((cellsFrom cursor text).map (Cell.shown .full))).Sublist
      (Text.positionsFrom testMark? position text) := by
  induction text generalizing cursor position with
  | nil => exact List.Sublist.refl _
  | cons char text inductionHypothesis =>
    have later := inductionHypothesis fits.step (position + 1)
    have here := testMark?_of_shown fits
    rw [cellsFrom, List.map_cons, Text.positionsFrom, Text.positionsFrom]
    rw [cellsFrom, List.map_cons] at here
    split_ifs with shown inText inText
    · exact later.cons_cons position
    · exact absurd (here shown) inText
    · exact later.cons position
    · exact later

/-- Every annotation that shows is one in the text. -/
theorem testMarks_masked_sublist (text : Text) :
    (testMarks (masked .full text)).Sublist (testMarks text) := by
  rw [testMarks_eq, testMarks_eq, masked_eq]
  exact positionsFrom_shown_sublist (Cursor.fits_of_owed_eq_zero rfl text) 0

/-! ### Tests and their annotations -/

theorem exists_of_readOutline {text : Text} {found : Outline × Text}
    (read : readOutline text = some found) :
    (testMark? text).isSome = true ∧ ∃ rest, text = "@Test" ++ rest := by
  obtain ⟨_, head, _⟩ := Option.map_eq_some_iff.mp read
  simp only [readHead, bind, Option.bind_eq_some_iff] at head
  obtain ⟨rest, mark, _⟩ := head
  refine ⟨Option.isSome_of_eq_some mark, rest, ?_⟩
  exact Text.after?_eq_some_iff.mp (Option.eq_some_of_filter_eq_some mark)

/-- A brace behind the start of an annotation stands behind its end. -/
theorem length_mark_le {front inside rest : Text}
    (equal : front ++ '\x7b' :: inside = "@Test" ++ rest) :
    ("@Test" : Text).length ≤ front.length := by
  obtain ⟨back, whole, opens⟩ | ⟨back, rfl, _⟩ := List.append_eq_append_iff.mp equal
  · cases back with
    | nil =>
      rw [whole, List.append_nil]
    | cons char back =>
      have brace : '\x7b' ∈ ("@Test" : Text) := by
        rw [whole, (List.cons.inj opens).1]
        exact List.mem_append_right front List.mem_cons_self
      exact absurd brace (by decide)
  · rw [List.length_append]
    exact Nat.le_add_right _ _

/-- Each position is that of an annotation in front of a test, and behind the tests before it. -/
structure Marks (marks : List Nat) (segments : List Segment) : Prop where
  inFront : List.Forall₂ (fun mark segment => mark + ("@Test" : Text).length ≤ segment.start)
    marks segments
  apart : (marks.zip segments).Pairwise fun first second =>
    first.1 < second.1 ∧ first.2.stop ≤ second.1

/-- Tests are found behind one another, each at an annotation in front of it. -/
theorem standing_of_findings (text : Text) {shown : Text} {before : Option Char} {position : Nat}
    {found : List (Nat × Outline)}
    (findings : Text.Findings (fun _ => readOutline) before position shown found)
    (place : position + shown.length = text.length) :
    (∀ finding ∈ found, position ≤ finding.1 ∧
        finding.1 + ("@Test" : Text).length ≤ (finding.2.segment text).start) ∧
      found.Pairwise fun first second => (first.2.segment text).stop ≤ second.1 := by
  -- a finding reaches from its annotation to the end of its body, and the search goes on there
  induction findings with
  | done => exact ⟨nofun, .nil⟩
  | miss fails further inductionHypothesis =>
    rw [List.length_cons] at place
    obtain ⟨inFront, apart⟩ := inductionHypothesis (by omega)
    refine ⟨fun finding member => ?_, apart⟩
    obtain ⟨later, stands⟩ := inFront finding member
    exact ⟨Nat.le_of_succ_le later, stands⟩
  | hit succeeds further inductionHypothesis =>
    rename_i position passed rest outline found
    obtain ⟨front, body, _, equal, describes, behind⟩ := readOutline_eq_some succeeds
    obtain ⟨_, whole, marked⟩ := exists_of_readOutline succeeds
    obtain ⟨inside, opens⟩ := describes.opens
    have marks : ("@Test" : Text).length ≤ front.length :=
      length_mark_le (by rw [← opens, ← equal, marked])
    have start : (outline.segment text).start = position + front.length := by
      show text.length - outline.remaining = _
      rw [← place, equal, List.length_append, describes.remaining]
      omega
    have stop : (outline.segment text).stop = position + passed.length := by
      have fits := describes.length_le
      have lengths := congrArg List.length equal
      have left := congrArg List.length behind
      rw [List.length_append, List.length_append] at lengths
      rw [List.length_drop] at left
      show (outline.segment text).start + outline.length = _
      omega
    obtain ⟨inFront, apart⟩ := inductionHypothesis
      (by rw [← place, List.length_append, Nat.add_assoc])
    constructor
    · intro finding member
      obtain rfl | further := List.mem_cons.mp member
      · exact ⟨le_rfl, by rw [start]; exact Nat.add_le_add_left marks position⟩
      · obtain ⟨later, stands⟩ := inFront finding further
        exact ⟨le_trans (Nat.le_add_right _ _) later, stands⟩
    · refine .cons (fun finding member => ?_) apart
      rw [stop]
      exact (inFront finding member).1

/-- Every test of a text has an annotation of its own that is counted. -/
theorem exists_marks (text : Text) :
    ∃ marks, marks.Sublist (testMarks (masked .full text)) ∧ Marks marks (segments text) := by
  have found := Text.findings_findFrom advances_readOutline none 0 (masked .full text)
  obtain ⟨inFront, apart⟩ := standing_of_findings text found
    (by rw [length_masked, Nat.zero_add])
  refine ⟨(Text.findAll (fun _ => readOutline) (masked .full text)).map Prod.fst, ?_, ?_, ?_⟩
  · rw [testMarks_eq]
    exact Text.map_fst_findFrom_sublist (fun _ _ read => (exists_of_readOutline read).1) none 0 0 _
  · rw [segments, outlines, List.map_map, List.forall₂_map_left_iff, List.forall₂_map_right_iff,
      List.forall₂_same]
    exact fun finding member => (inFront finding member).2
  · rw [segments, outlines, List.map_map, List.zip_map']
    exact List.pairwise_map.mpr ((Text.pairwise_findFrom _ none 0 0 _).and apart)

/-! ### The counts of a check -/

/-- How many empty tests a warning tells, if that is what it tells. -/
def SyntaxWarning.emptyTests? : SyntaxWarning → Option Nat
  | .emptyTests count => some count
  | _ => none

/-- The number of empty tests that a report tells of. -/
def SyntaxReport.emptyTests (report : SyntaxReport) : Nat :=
  (report.warnings.findSome? SyntaxWarning.emptyTests?).getD 0

theorem emptyTests_checkSyntax (text : Text) (expected : Int) :
    (checkSyntax text expected).emptyTests = emptyCount text := by
  have told (condition : Bool) (warning : SyntaxWarning) :
      (complain condition warning).findSome? SyntaxWarning.emptyTests? =
        if condition then warning.emptyTests? else none := by
    cases condition
    · rfl
    · rw [complain, if_pos rfl, if_pos rfl, List.findSome?_singleton]
  rw [SyntaxReport.emptyTests, checkSyntax]
  simp only [List.findSome?_append, told, SyntaxWarning.emptyTests?, ite_self, Option.none_or]
  by_cases empty : emptyCount text = 0 <;> simp [empty]

/-- No count of tests is more than the next: the empty tests that a check tells of, the closed ones,
all tests that are cut out, the annotations that the check counts, and those in the text itself,
which are counted where the text is the implementation in a report. Every test has one of the
counted annotations in front of it for itself, and behind the tests before it. -/
theorem test_counts_ordered (text : Text) (expected : Int) :
    (checkSyntax text expected).emptyTests ≤ (segments text).countP Segment.terminated ∧
      (segments text).countP Segment.terminated ≤ (segments text).length ∧
      (segments text).length ≤ (checkSyntax text expected).testCount ∧
      (checkSyntax text expected).testCount ≤ testCount text ∧
      (∀ part implementation, Report.Implementation.ofSection part = .ok implementation →
        implementation.code = text → implementation.testCount = testCount text) ∧
      (testMarks (masked .full text)).length = (checkSyntax text expected).testCount ∧
      ∃ marks, marks.Sublist (testMarks (masked .full text)) ∧ Marks marks (segments text) := by
  obtain ⟨marks, counted, isMarked⟩ := exists_marks text
  refine ⟨?_, List.countP_le_length, ?_, ?_, fun part implementation read code => ?_,
    length_testMarks _, marks, counted, isMarked⟩
  · rw [emptyTests_checkSyntax]
    exact List.countP_mono_left fun segment _ both => (Bool.and_eq_true _ _ ▸ both).1
  · show _ ≤ testCount (masked .full text)
    rw [← length_testMarks, ← isMarked.inFront.length_eq]
    exact counted.length_le
  · show testCount (masked .full text) ≤ _
    rw [← length_testMarks, ← length_testMarks]
    exact (testMarks_masked_sublist text).length_le
  · rw [← code]
    exact (Report.ofSection_eq_ok_iff.mp read).2

/-- An empty test, a closed one with an annotation in it and an unclosed one, behind an annotation
in a comment. -/
def unevenTests : Text :=
  "// @Test\n@Test void a() \x7b\x7d\n@Test void b() \x7b @Test \x7d\n@Test void c() \x7b"

/-- Each of the counts can be more than the one before it. -/
theorem test_counts_ordered_strictly :
    (checkSyntax unevenTests 3).emptyTests = 1 ∧
      (segments unevenTests).countP Segment.terminated = 2 ∧
      (segments unevenTests).length = 3 ∧
      (checkSyntax unevenTests 3).testCount = 4 ∧
      testCount unevenTests = 5 ∧
      ∃ marks, marks.Sublist (testMarks (masked .full unevenTests)) ∧
        Marks marks (segments unevenTests) := by
  obtain ⟨_, _, _, _, _, _, isMarked⟩ := test_counts_ordered unevenTests 3
  exact ⟨by decide +kernel, by decide +kernel, by decide +kernel, by decide +kernel,
    by decide +kernel, isMarked⟩

end BrowserPlan.Java
