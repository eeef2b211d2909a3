/-
This file proves that the walk over Java text is local: what it makes of a part of the text
depends on little outside of it.

On the right the walk sees no further than the next two characters, and of these only whether
they complete a sign. On the left everything is in the cursor, and the cursor is that of the
start wherever a brace counts: such a brace is met between two signs of code. So a part that
starts at a brace is painted as if it stood alone, and so is a part that ends behind one.
-/

import BrowserPlan.Proofs.Java.Loop

namespace BrowserPlan.Java

/-! ### What the walk sees ahead -/

/-- What follows a character that is no quote cannot be seen from before it. -/
theorem lookahead_append_cons {char : Char} (notQuote : char ≠ '"') (front rest other : Text) :
    lookahead (front ++ char :: rest) = lookahead (front ++ char :: other) := by
  match front with
  | [] => cases rest <;> cases other <;> simp [lookahead, notQuote]
  | [_] => rfl
  | _ :: _ :: _ => rfl

/-! ### Walking over a part of a text -/

/-- Where the walk stands behind the front part of a text. -/
def passOver (cursor : Cursor) : (front rest : Text) → Cursor
  | [], _ => cursor
  | char :: front, rest => passOver (cursor.step char (front ++ rest)) front rest

/-- The painted characters of the front part of a text. -/
def cellsOver (cursor : Cursor) : (front rest : Text) → List Cell
  | [], _ => []
  | char :: front, rest =>
      let next := cursor.step char (front ++ rest)
      ⟨char, cursor.region, next.paint⟩ :: cellsOver next front rest

theorem cellsFrom_cons (cursor : Cursor) (char : Char) (text : Text) :
    cellsFrom cursor (char :: text) =
      ⟨char, cursor.region, (cursor.step char text).paint⟩ ::
        cellsFrom (cursor.step char text) text :=
  rfl

/-- The walk over two parts is a walk over the first, with the second ahead, and then over the
second. -/
theorem cellsFrom_append (cursor : Cursor) (front rest : Text) :
    cellsFrom cursor (front ++ rest) =
      cellsOver cursor front rest ++ cellsFrom (passOver cursor front rest) rest := by
  induction front generalizing cursor with
  | nil => rfl
  | cons char front inductionHypothesis =>
    rw [List.cons_append, cellsFrom, inductionHypothesis]
    rfl

theorem walkFrom_append (cursor : Cursor) (front rest : Text) :
    walkFrom cursor (front ++ rest) = walkFrom (passOver cursor front rest) rest := by
  induction front generalizing cursor with
  | nil => rfl
  | cons char front inductionHypothesis =>
    rw [List.cons_append, walkFrom, inductionHypothesis]
    rfl

theorem length_cellsOver (cursor : Cursor) (front rest : Text) :
    (cellsOver cursor front rest).length = front.length := by
  induction front generalizing cursor with
  | nil => rfl
  | cons char front inductionHypothesis =>
    rw [cellsOver, List.length_cons, inductionHypothesis, List.length_cons]

theorem length_cellsFrom (cursor : Cursor) (text : Text) :
    (cellsFrom cursor text).length = text.length := by
  induction text generalizing cursor with
  | nil => rfl
  | cons char text inductionHypothesis =>
    rw [cellsFrom, List.length_cons, inductionHypothesis, List.length_cons]

theorem length_masked (mask : Mask) (text : Text) : (masked mask text).length = text.length := by
  rw [masked_eq, List.length_map, cells, length_cellsFrom]

/-! ### Nothing is seen behind a brace -/

/-- What stands behind a character that is no quote does not matter to a step before it. -/
theorem Cursor.step_append_cons (cursor : Cursor) {seen : Char} (notQuote : seen ≠ '"')
    (char : Char) (front rest other : Text) :
    cursor.step char (front ++ seen :: rest) = cursor.step char (front ++ seen :: other) := by
  unfold step
  split
  · rfl
  · exact sign_eq_of_lookahead _ _ (lookahead_append_cons notQuote front rest other)

/-- What stands behind a character that is no quote does not matter to the walk before it. -/
theorem passOver_cons {seen : Char} (notQuote : seen ≠ '"') (cursor : Cursor)
    (front rest other : Text) :
    passOver cursor front (seen :: rest) = passOver cursor front (seen :: other) := by
  induction front generalizing cursor with
  | nil => rfl
  | cons char front inductionHypothesis =>
    rw [passOver, passOver, cursor.step_append_cons notQuote char front rest other,
      inductionHypothesis]

theorem cellsOver_cons {seen : Char} (notQuote : seen ≠ '"') (cursor : Cursor)
    (front rest other : Text) :
    cellsOver cursor front (seen :: rest) = cellsOver cursor front (seen :: other) := by
  induction front generalizing cursor with
  | nil => rfl
  | cons char front inductionHypothesis =>
    rw [cellsOver, cellsOver, cursor.step_append_cons notQuote char front rest other,
      inductionHypothesis]

/-! ### A brace that counts stands between two signs of code -/

/-- What is still owed of a plain sign are quotes. -/
def Cursor.Fits (cursor : Cursor) (text : Text) : Prop :=
  cursor.paint = .plain → ∀ char ∈ text.take cursor.owed, char = '"'

theorem Cursor.fits_of_owed_eq_zero {cursor : Cursor} (between : cursor.owed = 0) (text : Text) :
    cursor.Fits text := by
  intro _ char member
  rw [between] at member
  exact absurd member List.not_mem_nil

/-- What a sign leaves to be passed: nothing, the two quotes behind a quote, or one more character
of an escape or of the mark of a comment. -/
theorem sign_cases (region : Region) (char : Char) (text : Text) :
    (sign region char text).owed = 0 ∨
      (∃ next, sign region char text = ⟨next, 2, .plain⟩ ∧ next ≠ .lineComment ∧
        (lookahead text).2 = true) ∨
      ∃ next paint, sign region char text = ⟨next, 1, paint⟩ ∧ paint ≠ .plain ∧
        ∃ ahead rest, text = ahead :: rest ∧ (next = .lineComment → ahead = '/') := by
  -- A sign of two characters is a mark of a comment or an escape. Both need another character.
  have marks {next : Region} {ahead : Char} (seen : (lookahead text).1 = some ahead)
      (slash : next = .lineComment → ahead = '/') :
      ∃ ahead rest, text = ahead :: rest ∧ (next = .lineComment → ahead = '/') := by
    rw [lookahead_fst] at seen
    obtain ⟨rest, equal⟩ := List.head?_eq_some_iff.mp seen
    exact ⟨ahead, rest, equal, slash⟩
  have escapes {next : Region} (more : (lookahead text).1 ≠ none) (inside : next ≠ .lineComment) :
      ∃ ahead rest, text = ahead :: rest ∧ (next = .lineComment → ahead = '/') := by
    obtain ⟨ahead, seen⟩ := Option.ne_none_iff_exists'.mp more
    exact marks seen fun line => absurd line inside
  cases region with
  | code =>
    rw [sign, codeSign_eq]
    split_ifs with line block textBlock
    · exact .inr (.inr ⟨_, _, rfl, by decide, marks line.2 fun _ => rfl⟩)
    · exact .inr (.inr ⟨_, _, rfl, by decide, marks block.2 (by decide)⟩)
    · exact .inr (.inl ⟨_, rfl, by decide, textBlock.2⟩)
    · exact .inl rfl
    · exact .inl rfl
    · exact .inl rfl
  | string | char =>
    rw [sign, quotedSign_eq]
    split_ifs with escaped
    · exact .inr (.inr ⟨_, _, rfl, by decide, escapes escaped.2 (by decide)⟩)
    · exact .inl rfl
    · exact .inl rfl
  | textBlock =>
    rw [sign, textBlockSign_eq]
    split_ifs with closing escaped
    · exact .inr (.inl ⟨_, rfl, by decide, closing.2⟩)
    · exact .inr (.inr ⟨_, _, rfl, by decide, escapes escaped.2 (by decide)⟩)
    · exact .inl rfl
  | lineComment =>
    rw [sign, lineCommentSign]
    split_ifs
    · exact .inl rfl
    · exact .inl rfl
  | blockComment =>
    rw [sign, blockCommentSign_eq]
    split_ifs with closing
    · exact .inr (.inr ⟨_, _, rfl, by decide, marks closing.2 (by decide)⟩)
    · exact .inl rfl

theorem fits_sign (region : Region) (char : Char) (text : Text) :
    (sign region char text).Fits text := by
  obtain between | ⟨next, equal, _, quotes⟩ | ⟨next, paint, equal, hidden, _⟩ :=
    sign_cases region char text
  · exact Cursor.fits_of_owed_eq_zero between text
  · obtain ⟨rest, rfl⟩ := eq_quotes_of_lookahead quotes
    rw [equal]
    intro _ other member
    simpa using member
  · rw [equal]
    exact fun plain => absurd plain hidden

theorem Cursor.Fits.step {cursor : Cursor} {char : Char} {text : Text}
    (fits : cursor.Fits (char :: text)) : (cursor.step char text).Fits text := by
  unfold Cursor.step
  split
  · rename_i owed equal
    intro plain other member
    refine fits plain other ?_
    rw [equal, List.take_succ_cons]
    exact List.mem_cons_of_mem _ member
  · exact fits_sign cursor.region char text

/-- Whatever front the walk has passed, what is owed of a plain sign are quotes. -/
theorem Cursor.Fits.passOver {cursor : Cursor} {front rest : Text}
    (fits : cursor.Fits (front ++ rest)) : (passOver cursor front rest).Fits rest := by
  induction front generalizing cursor with
  | nil => exact fits
  | cons char front inductionHypothesis => exact inductionHypothesis fits.step

/-- A plain sign that is neither a quote nor a newline is one of code. -/
theorem sign_of_plain {region : Region} {char : Char} {text : Text} (notQuote : char ≠ '"')
    (notApostrophe : char ≠ '\'') (notNewline : char ≠ '\n')
    (plain : (sign region char text).paint = .plain) :
    region = .code ∧ sign region char text = .start := by
  cases region with
  | code =>
    refine ⟨rfl, ?_⟩
    rw [sign, codeSign_eq] at plain ⊢
    split_ifs at plain ⊢ with _ _ textBlock
    · exact absurd textBlock.1 notQuote
    · rfl
  | string =>
    rw [sign, quotedSign_eq] at plain
    split_ifs at plain with _ closing
    · exact absurd closing (not_or_intro notQuote notNewline)
  | char =>
    rw [sign, quotedSign_eq] at plain
    split_ifs at plain with _ closing
    · exact absurd closing (not_or_intro notApostrophe notNewline)
  | textBlock =>
    rw [sign, textBlockSign_eq] at plain
    split_ifs at plain with closing
    · exact absurd closing.1 notQuote
  | lineComment =>
    rw [sign, lineCommentSign, if_neg notNewline] at plain
    cases plain
  | blockComment =>
    rw [sign, blockCommentSign_eq] at plain
    split_ifs at plain

/-- A plain character that is neither a quote nor a newline stands between two signs of code. -/
theorem Cursor.Fits.between {cursor : Cursor} {char : Char} {text : Text}
    (fits : cursor.Fits (char :: text)) (notQuote : char ≠ '"') (notApostrophe : char ≠ '\'')
    (notNewline : char ≠ '\n') (plain : (cursor.step char text).paint = .plain) :
    cursor.region = .code ∧ cursor.owed = 0 ∧ cursor.step char text = .start := by
  unfold Cursor.step at plain ⊢
  split at plain
  · rename_i owed equal
    have quote := fits plain char (by rw [equal]; exact List.mem_cons_self)
    exact absurd quote notQuote
  · rename_i between
    obtain ⟨region, start⟩ := sign_of_plain notQuote notApostrophe notNewline plain
    exact ⟨region, between, start⟩

/-- Between two signs of code the walk goes on as from the start. -/
theorem cellsFrom_eq_cells {cursor : Cursor} (region : cursor.region = .code)
    (between : cursor.owed = 0) (text : Text) : cellsFrom cursor text = cells text := by
  obtain ⟨_, _, paint⟩ := cursor
  subst region between
  cases text <;> rfl

/-! ### A part of a text by itself -/

theorem weight_ne_zero_iff {char : Char} : weight char ≠ 0 ↔ char = '\x7b' ∨ char = '\x7d' := by
  unfold weight
  split_ifs with opens closes
  · simp [opens]
  · simp [closes]
  · simp [opens, closes]

/-- What a painted character adds to the depth shows under the full mask. -/
theorem Cell.weight_shown (cell : Cell) : Java.weight (cell.shown .full) = cell.weight := by
  obtain ⟨char, region, paint⟩ := cell
  cases paint with
  | plain => rfl
  | literal => by_cases newline : char = '\n' <;>
      simp [Cell.shown, Cell.weight, Mask.hides, Mask.full, newline, Java.weight]
  | comment => by_cases newline : char = '\n' <;>
      simp [Cell.shown, Cell.weight, Mask.hides, Mask.full, newline, Java.weight]

/-- Under the full mask a brace shows only where it counts. -/
theorem Cell.of_shown_brace {cell : Cell} {brace : Char} (isBrace : Java.weight brace ≠ 0)
    (shown : cell.shown .full = brace) : cell.paint = .plain ∧ cell.char = brace := by
  have counts : cell.weight ≠ 0 := by
    rw [← cell.weight_shown, shown]
    exact isBrace
  have plain : cell.paint = .plain := by
    by_contra hidden
    exact counts (if_neg hidden)
  refine ⟨plain, ?_⟩
  rw [← shown, Cell.shown, plain]
  rfl

/-- What is shown behind a front depends on the front through the cursor alone. -/
theorem drop_masked (mask : Mask) (front back : Text) :
    (masked mask (front ++ back)).drop front.length =
      (cellsFrom (passOver .start front back) back).map (Cell.shown mask) := by
  rw [masked_eq, cells, cellsFrom_append, List.map_append]
  exact List.drop_left' (by rw [List.length_map, length_cellsOver])

/-- Where a brace shows under the full mask the text has a brace, and the walk stands between
two signs of code before the brace and behind it. -/
theorem between_of_shown_brace {front back rest : Text} {brace : Char}
    (isBrace : weight brace ≠ 0)
    (found : (masked .full (front ++ back)).drop front.length = brace :: rest) :
    ∃ after, back = brace :: after ∧ (passOver .start front back).region = .code ∧
      (passOver .start front back).owed = 0 ∧
      (passOver .start front back).step brace after = .start := by
  rw [drop_masked] at found
  cases back with
  | nil => cases found
  | cons char after =>
    rw [cellsFrom, List.map_cons] at found
    obtain ⟨plain, rfl⟩ := Cell.of_shown_brace isBrace (List.cons.inj found).1
    have fits : (passOver .start front (char :: after)).Fits (char :: after) :=
      (Cursor.fits_of_owed_eq_zero rfl _).passOver
    have braces := weight_ne_zero_iff.mp isBrace
    refine ⟨after, rfl, fits.between ?_ ?_ ?_ plain⟩
    · rcases braces with rfl | rfl <;> decide
    · rcases braces with rfl | rfl <;> decide
    · rcases braces with rfl | rfl <;> decide

/-- A part of a text that starts where a brace shows is masked as it is by itself. -/
theorem masked_of_shown_brace {front back rest : Text} {brace : Char}
    (isBrace : weight brace ≠ 0)
    (found : (masked .full (front ++ back)).drop front.length = brace :: rest) :
    masked .full back = brace :: rest := by
  obtain ⟨after, rfl, region, between, _⟩ := between_of_shown_brace isBrace found
  rw [← found, drop_masked, cellsFrom_eq_cells region between, masked_eq]

/-- A part of a text that ends behind a brace that shows is painted as it is by itself, and the
walk over it ends between two signs of code. -/
theorem cells_concat_of_shown_brace {front back rest : Text} {brace : Char}
    (isBrace : weight brace ≠ 0)
    (found : (masked .full (front ++ back)).drop front.length = brace :: rest) :
    cells (front ++ [brace]) = (cells (front ++ back)).take (front.length + 1) ∧
      walkFrom .start (front ++ [brace]) = .start := by
  obtain ⟨after, rfl, region, between, step⟩ := between_of_shown_brace isBrace found
  have notQuote : brace ≠ '"' := by
    rcases weight_ne_zero_iff.mp isBrace with rfl | rfl <;> decide
  have alone : (passOver .start front [brace]).step brace [] = .start := by
    rw [passOver_cons notQuote .start front [] after]
    unfold Cursor.step
    rw [between, region]
    rcases weight_ne_zero_iff.mp isBrace with rfl | rfl <;> rfl
  constructor
  · rw [cells, cells, cellsFrom_append, cellsFrom_append, List.take_append,
      List.take_of_length_le (by rw [length_cellsOver]; exact Nat.le_succ _), length_cellsOver,
      Nat.add_sub_cancel_left, cellsOver_cons notQuote .start front [] after,
      cellsFrom_cons _ brace [], alone, passOver_cons notQuote .start front [] after,
      cellsFrom_cons _ brace after, step, List.take_succ_cons]
    rfl
  · rw [walkFrom_append, walkFrom, alone, walkFrom]

end BrowserPlan.Java
