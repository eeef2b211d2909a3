/-
This file proves that comments have no influence: a text whose comments are blanked out has the
same test methods, the same actions and the same faults as the text itself.

The walk over the blanked text stands in code wherever the walk over the text itself stands in a
comment, and is otherwise at one with it. For this a blank must neither complete a sign that was
none nor break one that was. It completes none, since no sign is made of blanks; and what is
broken by a comment was no sign before, since all of a sign's characters are painted alike.
-/

import BrowserPlan.Action.Extraction
import BrowserPlan.Java.Syntax
import BrowserPlan.Proofs.Java.Body

namespace BrowserPlan.Java

/-! ### What blanking leaves -/

/-- The region that is left of a region when comments are blanked out. -/
def Region.uncommented : Region → Region
  | .lineComment | .blockComment => .code
  | region => region

/-- Where the walk stands when comments are blanked out: inside of one, between two signs of
code. -/
def Cursor.uncommented (cursor : Cursor) : Cursor :=
  if cursor.paint = .comment then .start else cursor

/-- A painted character as it is painted when comments are blanked out. -/
def Cell.uncommented (cell : Cell) : Cell :=
  if cell.paint = .comment then ⟨cell.shown .commentsOnly, .code, .plain⟩
  else { cell with region := cell.region.uncommented }

theorem Cursor.uncommented_of_comment {cursor : Cursor} (comment : cursor.paint = .comment) :
    cursor.uncommented = .start :=
  if_pos comment

theorem Cursor.uncommented_of_visible {cursor : Cursor} (visible : cursor.paint ≠ .comment) :
    cursor.uncommented = cursor :=
  if_neg visible

theorem Cell.shown_of_visible {cell : Cell} (visible : cell.paint ≠ .comment) :
    cell.shown .commentsOnly = cell.char := by
  obtain ⟨char, region, paint⟩ := cell
  cases paint with
  | plain | literal => rfl
  | comment => exact absurd rfl visible

/-- All that shows of a comment are blanks and newlines. -/
theorem Cell.shown_of_comment {cell : Cell} (comment : cell.paint = .comment) :
    cell.shown .commentsOnly = ' ' ∨ cell.shown .commentsOnly = '\n' := by
  obtain ⟨char, region, paint⟩ := cell
  subst comment
  by_cases newline : char = '\n' <;> simp [Cell.shown, Mask.hides, Mask.commentsOnly, newline]

/-- A character that shows, and is neither a blank nor a newline, is the one that was there. -/
theorem Cell.char_eq_of_shown {cell : Cell} {char : Char} (notBlank : char ≠ ' ')
    (notNewline : char ≠ '\n') (shown : cell.shown .commentsOnly = char) : cell.char = char := by
  by_cases comment : cell.paint = .comment
  · rcases cell.shown_of_comment comment with blank | newline
    · exact absurd (shown.symm.trans blank) notBlank
    · exact absurd (shown.symm.trans newline) notNewline
  · rw [← shown, cell.shown_of_visible comment]

/-! ### Comments and their paint -/

/-- The cursor is painted as a comment inside of one, and nowhere else but at its ends. -/
def Cursor.Coherent (cursor : Cursor) : Prop :=
  cursor.region.uncommented = cursor.uncommented.region

theorem Cursor.coherent_start : Cursor.start.Coherent :=
  rfl

theorem coherent_sign (region : Region) (char : Char) (text : Text) :
    (sign region char text).Coherent := by
  cases region with
  | code =>
    rw [sign, codeSign_eq]
    split_ifs <;> rfl
  | string | char =>
    rw [sign, quotedSign_eq]
    split_ifs <;> rfl
  | textBlock =>
    rw [sign, textBlockSign_eq]
    split_ifs <;> rfl
  | lineComment =>
    rw [sign, lineCommentSign]
    split_ifs <;> rfl
  | blockComment =>
    rw [sign, blockCommentSign_eq]
    split_ifs <;> rfl

/-- One step keeps what the cursor is in and how it is painted together. -/
theorem Cursor.Coherent.step {cursor : Cursor} (coherent : cursor.Coherent) (char : Char)
    (text : Text) : (cursor.step char text).Coherent := by
  unfold Cursor.step
  split
  · obtain ⟨region, owed, paint⟩ := cursor
    cases paint with
    | plain | literal => exact coherent
    | comment => exact coherent
  · exact coherent_sign cursor.region char text

/-- Only from code and from inside of a comment a sign of a comment is met. -/
theorem region_of_comment_sign {region : Region} {char : Char} {text : Text}
    (comment : (sign region char text).paint = .comment) : region.uncommented = .code := by
  cases region with
  | code | lineComment | blockComment => rfl
  | string | char =>
    rw [sign, quotedSign_eq] at comment
    split_ifs at comment
  | textBlock =>
    rw [sign, textBlockSign_eq] at comment
    split_ifs at comment

/-- A comment is met only where the walk over the blanked text stands between two signs of
code. -/
theorem Cursor.Coherent.between_of_comment {cursor : Cursor} (coherent : cursor.Coherent)
    {char : Char} {text : Text} (comment : (cursor.step char text).paint = .comment) :
    cursor.uncommented.region = .code ∧ cursor.uncommented.owed = 0 := by
  by_cases inside : cursor.paint = .comment
  · rw [uncommented_of_comment inside]
    exact ⟨rfl, rfl⟩
  · unfold Cursor.step at comment
    split at comment
    · exact absurd comment inside
    · rename_i between
      rw [← coherent, region_of_comment_sign comment, uncommented_of_visible inside]
      exact ⟨rfl, between⟩

/-! ### What is seen ahead in the blanked text -/

/-- A text with its comments blanked out, as the walk shows it from a cursor on. -/
def shownFrom (cursor : Cursor) (text : Text) : Text :=
  (cellsFrom cursor text).map (Cell.shown .commentsOnly)

theorem shownFrom_eq_nil_iff {cursor : Cursor} {text : Text} :
    shownFrom cursor text = [] ↔ text = [] := by
  cases text with
  | nil => exact iff_of_true rfl rfl
  | cons char text => exact iff_of_false (List.cons_ne_nil _ _) (List.cons_ne_nil _ _)

/-- What is seen first in the blanked text is seen in the text itself. -/
theorem lookahead_of_shownFrom {cursor : Cursor} {text : Text} {char : Char}
    (notBlank : char ≠ ' ') (notNewline : char ≠ '\n')
    (seen : (lookahead (shownFrom cursor text)).1 = some char) :
    (lookahead text).1 = some char := by
  match text with
  | [] => cases seen
  | [first] =>
    exact congrArg some (Cell.char_eq_of_shown notBlank notNewline (Option.some.inj seen))
  | first :: _ :: _ =>
    exact congrArg some (Cell.char_eq_of_shown notBlank notNewline (Option.some.inj seen))

/-- Quotes that are seen in the blanked text are seen in the text itself. -/
theorem quotes_of_shownFrom {cursor : Cursor} {text : Text}
    (quotes : (lookahead (shownFrom cursor text)).2 = true) : (lookahead text).2 = true := by
  match text with
  | [] => cases quotes
  | [_] => cases quotes
  | first :: second :: _ =>
    obtain ⟨_, equal⟩ := eq_quotes_of_lookahead quotes
    obtain ⟨equalFirst, equalRest⟩ := List.cons.inj equal
    have isQuote : first = '"' := Cell.char_eq_of_shown (by decide) (by decide) equalFirst
    have alsoQuote : second = '"' :=
      Cell.char_eq_of_shown (by decide) (by decide) (List.cons.inj equalRest).1
    simp [lookahead, isQuote, alsoQuote]

/-- The quotes that a plain sign still owes are seen in the blanked text, too. -/
theorem quotes_shownFrom {region : Region} {text : Text}
    (quotes : (lookahead text).2 = true) :
    (lookahead (shownFrom ⟨region, 2, .plain⟩ text)).2 = true := by
  obtain ⟨rest, rfl⟩ := eq_quotes_of_lookahead quotes
  rfl

/-- Outside of comments the same signs are met in the blanked text. -/
theorem sign_shownFrom {region : Region} (outside : region.uncommented = region) {char : Char}
    {text : Text} (visible : (sign region char text).paint ≠ .comment) :
    sign region char (shownFrom (sign region char text) text) = sign region char text := by
  have first (other : Char) (notBlank : other ≠ ' ') (notNewline : other ≠ '\n') :=
    @lookahead_of_shownFrom (sign region char text) text other notBlank notNewline
  have quotes := @quotes_of_shownFrom (sign region char text) text
  have ends : (lookahead (shownFrom (sign region char text) text)).1 = none ↔
      (lookahead text).1 = none := by
    rw [lookahead_fst_eq_none_iff, lookahead_fst_eq_none_iff, shownFrom_eq_nil_iff]
  cases region with
  | code =>
    by_cases block : char = '"' ∧ (lookahead text).2 = true
    · have opening : sign .code char text = ⟨.textBlock, 2, .plain⟩ := by
        rw [sign, codeSign_eq]
        simp [block]
      rw [opening, sign, codeSign_eq]
      simp [block.1, quotes_shownFrom block.2]
    · have notLine : ¬ (char = '/' ∧ (lookahead text).1 = some '/') := by
        intro line
        rw [sign, codeSign_eq, if_pos line] at visible
        exact visible rfl
      have notComment : ¬ (char = '/' ∧ (lookahead text).1 = some '*') := by
        intro opens
        rw [sign, codeSign_eq, if_neg notLine, if_pos opens] at visible
        exact visible rfl
      -- What is shown may have a blank in place of a mark, but no mark where there was none.
      generalize shownFrom (sign .code char text) text = shown at first quotes
      rw [sign, sign, codeSign_eq, codeSign_eq char text, if_neg notLine, if_neg notComment,
        if_neg block, if_neg, if_neg, if_neg]
      · exact fun opens => block ⟨opens.1, quotes opens.2⟩
      · exact fun opens => notComment ⟨opens.1, first _ (by decide) (by decide) opens.2⟩
      · exact fun opens => notLine ⟨opens.1, first _ (by decide) (by decide) opens.2⟩
  | string | char =>
    generalize shownFrom _ text = shown at ends
    rw [sign, sign, quotedSign_eq, quotedSign_eq _ _ char text]
    simp only [ne_eq, ends]
  | textBlock =>
    by_cases closes : char = '"' ∧ (lookahead text).2 = true
    · have closing : sign .textBlock char text = ⟨.code, 2, .plain⟩ := by
        rw [sign, textBlockSign_eq, if_pos closes]
      rw [closing, sign, textBlockSign_eq, if_pos ⟨closes.1, quotes_shownFrom closes.2⟩]
    · generalize shownFrom (sign .textBlock char text) text = shown at quotes ends
      rw [sign, sign, textBlockSign_eq, textBlockSign_eq char text, if_neg closes, if_neg]
      · simp only [ne_eq, ends]
      · exact fun ending => closes ⟨ending.1, quotes ending.2⟩
  | lineComment | blockComment => cases outside

/-! ### The walk over the blanked text -/

theorem Cursor.step_of_blank {cursor : Cursor} (region : cursor.region = .code)
    (between : cursor.owed = 0) {char : Char} (blank : char = ' ' ∨ char = '\n') (text : Text) :
    cursor.step char text = .start := by
  unfold Cursor.step
  rw [between, region]
  rcases blank with rfl | rfl <;> rfl

/-- One step over the blanked text keeps with the step over the text itself. -/
theorem Cursor.Coherent.step_uncommented {cursor : Cursor} (coherent : cursor.Coherent)
    (char : Char) (text : Text) :
    cursor.uncommented.step
        (Cell.shown .commentsOnly ⟨char, cursor.region, (cursor.step char text).paint⟩)
        (shownFrom (cursor.step char text) text) =
      (cursor.step char text).uncommented := by
  by_cases comment : (cursor.step char text).paint = .comment
  · obtain ⟨region, between⟩ := coherent.between_of_comment comment
    rw [uncommented_of_comment comment]
    exact step_of_blank region between (Cell.shown_of_comment comment) _
  · have shown : Cell.shown .commentsOnly ⟨char, cursor.region, (cursor.step char text).paint⟩ =
        char := Cell.shown_of_visible comment
    rw [shown, uncommented_of_visible comment]
    obtain ⟨region, owed, paint⟩ := cursor
    cases owed with
    | succ owed =>
      rw [@uncommented_of_visible ⟨region, owed + 1, paint⟩ comment]
      rfl
    | zero =>
      have visible : (sign region char text).paint ≠ .comment := comment
      have same : (uncommented ⟨region, 0, paint⟩).step char
          (shownFrom (sign region char text) text) =
            sign region.uncommented char (shownFrom (sign region char text) text) := by
        rw [show region.uncommented = _ from coherent]
        by_cases inside : paint = .comment
        · rw [@uncommented_of_comment ⟨region, 0, paint⟩ inside]
          rfl
        · rw [@uncommented_of_visible ⟨region, 0, paint⟩ inside]
          rfl
      refine same.trans ?_
      show _ = sign region char text
      cases region with
      | code => exact sign_shownFrom rfl visible
      | string => exact sign_shownFrom rfl visible
      | char => exact sign_shownFrom rfl visible
      | textBlock => exact sign_shownFrom rfl visible
      | lineComment =>
        -- Only the newline that ends the comment shows.
        rw [sign, lineCommentSign] at visible ⊢
        split_ifs at visible ⊢ with newline
        · rw [newline]
          rfl
        · exact absurd rfl visible
      | blockComment =>
        rw [sign, blockCommentSign_eq] at visible
        split_ifs at visible <;> exact absurd rfl visible

/-- One step over the text without its comments paints what a step over the text does. -/
theorem Cursor.Coherent.uncommented_cell {cursor : Cursor} (coherent : cursor.Coherent)
    (char : Char) (text : Text) :
    Cell.uncommented ⟨char, cursor.region, (cursor.step char text).paint⟩ =
      ⟨Cell.shown .commentsOnly ⟨char, cursor.region, (cursor.step char text).paint⟩,
        cursor.uncommented.region, (cursor.step char text).uncommented.paint⟩ := by
  by_cases comment : (cursor.step char text).paint = .comment
  · rw [Cell.uncommented, if_pos comment, (coherent.between_of_comment comment).1,
      uncommented_of_comment comment]
    rfl
  · rw [Cell.uncommented, if_neg comment, Cell.shown_of_visible comment,
      uncommented_of_visible comment, ← coherent]

/-- The blanked text is painted like the text itself, but for the comments. -/
theorem Cursor.Coherent.cellsFrom_shownFrom {cursor : Cursor} (coherent : cursor.Coherent)
    (text : Text) :
    cellsFrom cursor.uncommented (shownFrom cursor text) =
      (cellsFrom cursor text).map Cell.uncommented := by
  induction text generalizing cursor with
  | nil => rfl
  | cons char text inductionHypothesis =>
    rw [cellsFrom_cons, List.map_cons, coherent.uncommented_cell, ← inductionHypothesis
      (coherent.step char text), ← coherent.step_uncommented char text]
    rfl

/-- The walk over the text without its comments ends where the walk over the text does. -/
theorem Cursor.Coherent.walkFrom_shownFrom {cursor : Cursor} (coherent : cursor.Coherent)
    (text : Text) :
    walkFrom cursor.uncommented (shownFrom cursor text) =
        (walkFrom cursor text).uncommented ∧ (walkFrom cursor text).Coherent := by
  induction text generalizing cursor with
  | nil => exact ⟨rfl, coherent⟩
  | cons char text inductionHypothesis =>
    rw [walkFrom, ← (inductionHypothesis (coherent.step char text)).1,
      ← coherent.step_uncommented char text]
    exact ⟨rfl, (inductionHypothesis (coherent.step char text)).2⟩

/-- Hiding the comments first paints every character as before, but blanks where the comments were.
-/
theorem cells_uncommented (text : Text) :
    cells (masked .commentsOnly text) = (cells text).map Cell.uncommented := by
  rw [masked_eq]
  exact Cursor.coherent_start.cellsFrom_shownFrom text

/-! ### What is read off the painted characters -/

theorem Cell.shown_uncommented {mask : Mask} (hides : mask.comments = true) (cell : Cell) :
    cell.uncommented.shown mask = cell.shown mask := by
  obtain ⟨char, region, paint⟩ := cell
  cases paint with
  | plain | literal => rfl
  | comment =>
    by_cases newline : char = '\n' <;>
      simp [uncommented, shown, Mask.hides, Mask.commentsOnly, hides, newline]

theorem Cell.weight_uncommented (cell : Cell) : cell.uncommented.weight = cell.weight := by
  obtain ⟨char, region, paint⟩ := cell
  cases paint with
  | plain | literal => rfl
  | comment =>
    by_cases newline : char = '\n' <;>
      simp [uncommented, weight, shown, Mask.hides, Mask.commentsOnly, newline, Java.weight]

theorem Cell.newline_uncommented (cell : Cell) :
    cell.uncommented.char = '\n' ↔ cell.char = '\n' := by
  obtain ⟨char, region, paint⟩ := cell
  cases paint with
  | plain | literal => exact Iff.rfl
  | comment =>
    by_cases newline : char = '\n' <;>
      simp [uncommented, shown, Mask.hides, Mask.commentsOnly, newline]

/-- No comment cuts a literal off. -/
theorem Cell.cutsOff_uncommented (cell : Cell) : cell.uncommented.cutsOff = cell.cutsOff := by
  obtain ⟨char, region, paint⟩ := cell
  cases paint with
  | plain => cases region <;> rfl
  | literal | comment => simp [uncommented, cutsOff]

theorem cutOffFrom_uncommented (line : Nat) (cells : List Cell) :
    cutOffFrom line (cells.map Cell.uncommented) = cutOffFrom line cells := by
  induction cells generalizing line with
  | nil => rfl
  | cons cell cells inductionHypothesis =>
    rw [List.map_cons, cutOffFrom, cutOffFrom, inductionHypothesis, cell.cutsOff_uncommented]
    simp only [cell.newline_uncommented]
    split
    · rename_i cut
      have same : cell.uncommented.region = cell.region := by
        obtain ⟨char, region, paint⟩ := cell
        simp only [Cell.cutsOff, Bool.and_eq_true, Bool.or_eq_true, decide_eq_true_eq] at cut
        obtain ⟨⟨_, rfl⟩, rfl | rfl⟩ := cut <;> rfl
      rw [same]
    · rfl

/-- Once comments are blanked out, blanking them out again changes nothing. -/
theorem masked_uncommented {mask : Mask} (hides : mask.comments = true) (text : Text) :
    masked mask (masked .commentsOnly text) = masked mask text := by
  rw [masked_eq, cells_uncommented, List.map_map, masked_eq]
  exact List.map_congr_left fun cell _ => cell.shown_uncommented hides

/-- A walk over the blanked text finds out the same, unless a comment is never closed. -/
theorem scan_uncommented {text : Text}
    (closed : (scan .full text).openRegion ≠ .blockComment) :
    scan .full (masked .commentsOnly text) = scan .full text := by
  have weights : (cells (masked .commentsOnly text)).map Cell.weight =
      (cells text).map Cell.weight := by
    rw [cells_uncommented, List.map_map]
    exact List.map_congr_left fun cell _ => cell.weight_uncommented
  have shown : (cells (masked .commentsOnly text)).map (Cell.shown .full) =
      (cells text).map (Cell.shown .full) := by
    rw [← masked_eq, ← masked_eq, masked_uncommented rfl]
  have region : (walkFrom .start (masked .commentsOnly text)).region.atEnd =
      (walkFrom .start text).region.atEnd := by
    obtain ⟨walk, coherent⟩ := Cursor.coherent_start.walkFrom_shownFrom text
    have ends : walkFrom .start (masked .commentsOnly text) =
        (walkFrom .start text).uncommented := by
      rw [masked_eq]
      exact walk
    have notOpen : (walkFrom .start text).region.atEnd ≠ .blockComment := by
      rwa [← openRegion_scan]
    rw [ends, ← coherent]
    cases region : (walkFrom .start text).region with
    | code | string | char | textBlock | lineComment => rfl
    | blockComment => exact absurd (congrArg Region.atEnd region) notOpen
  have cutOff : cutOffFrom 1 (cells (masked .commentsOnly text)) = cutOffFrom 1 (cells text) := by
    rw [cells_uncommented, cutOffFrom_uncommented]
  rw [scan_eq, scan_eq, weights, shown, region, cutOff]

/-! ### Test methods -/

/-- A test method without the comments of its body. -/
def Segment.uncommented (segment : Segment) : Segment :=
  { segment with body := masked .commentsOnly segment.body }

/-- The blanked text has the same test methods at the same positions. -/
theorem segments_uncommented (text : Text) :
    segments (masked .commentsOnly text) = (segments text).map Segment.uncommented := by
  rw [segments, segments, masked_uncommented rfl, List.map_map]
  refine List.map_congr_left fun outline member => ?_
  have body := masked_body member .commentsOnly
  rw [Function.comp_apply, Segment.uncommented, body, Outline.segment, length_masked]
  rfl

theorem emptyCount_uncommented (text : Text) :
    emptyCount (masked .commentsOnly text) = emptyCount text := by
  have same (segment : Segment) : isEmptyBody segment.uncommented.body = isEmptyBody segment.body :=
    congrArg (fun shown => Text.isAllBlank (List.dropLast (List.drop 1 shown)))
      (masked_uncommented rfl segment.body)
  rw [emptyCount, emptyCount, segments_uncommented, List.countP_map]
  refine List.countP_congr fun segment _ => ?_
  rw [Function.comp_apply, same]
  rfl

theorem actionsOfBody_uncommented (body : Text) (order : ActionOrder) :
    actionsOfBody (masked .commentsOnly body) order = actionsOfBody body order := by
  unfold actionsOfBody
  rw [masked_uncommented rfl]

/-- What is extracted from a source does not depend on its comments. -/
theorem ofSource_uncommented (text : Text) (wanted? : Option Text) (order : ActionOrder) :
    Extraction.ofSource (masked .commentsOnly text) wanted? order =
      Extraction.ofSource text wanted? order := by
  have same (segment : Segment) : TestMethod.ofSegment order segment.uncommented =
      TestMethod.ofSegment order segment := by
    rw [TestMethod.ofSegment, TestMethod.ofSegment]
    exact congrArg (TestMethod.mk segment.name) (actionsOfBody_uncommented segment.body order)
  rw [Extraction.ofSource, Extraction.ofSource, segments_uncommented, List.filter_map,
    List.map_map]
  exact congrArg Extraction.mk (List.map_congr_left fun segment _ => same segment)

/-- The syntax check does not depend on comments, as long as they are closed. -/
theorem checkSyntax_uncommented {text : Text}
    (closed : (scan .full text).openRegion ≠ .blockComment) (expected : Int) :
    checkSyntax (masked .commentsOnly text) expected = checkSyntax text expected := by
  rw [checkSyntax, checkSyntax, scan_uncommented closed, emptyCount_uncommented]

/-- Comments have no influence. When they are blanked out, the same actions are recognised, the
test methods stand where they stood and differ by the comments of their bodies alone, and the
check finds the same; only a comment that is never closed is a fault of its own. -/
theorem comments_have_no_influence (text : Text) :
    (∀ wanted? order,
      Extraction.ofSource (masked .commentsOnly text) wanted? order =
        Extraction.ofSource text wanted? order) ∧
      segments (masked .commentsOnly text) = (segments text).map Segment.uncommented ∧
      ((scan .full text).openRegion ≠ .blockComment → ∀ expected,
        checkSyntax (masked .commentsOnly text) expected = checkSyntax text expected) :=
  ⟨ofSource_uncommented text, segments_uncommented text, checkSyntax_uncommented⟩

/-- A test with comments that hold quotes and braces, between literals that hold slashes. -/
def commentedTest : Text :=
  "/* \"\"\" */ @Test void a() \x7b driver.get(\"//a\"); // \x7d \"\n" ++
    "'/' /*\x7b\n*/ \"\"/**/\"\" \x7d //"

/-- A test with comments of both kinds. -/
theorem comments_have_no_influence_on_commentedTest :
    (scan .full commentedTest).openRegion ≠ .blockComment ∧
      masked .commentsOnly commentedTest ≠ commentedTest ∧
      checkSyntax (masked .commentsOnly commentedTest) 3 = checkSyntax commentedTest 3 := by
  have closed : (scan .full commentedTest).openRegion ≠ .blockComment := by
    decide +kernel
  have commented : masked .commentsOnly commentedTest ≠ commentedTest := by
    decide +kernel
  exact ⟨closed, commented, (comments_have_no_influence commentedTest).2.2 closed 3⟩

end BrowserPlan.Java
