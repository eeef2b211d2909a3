/-
This file proves which parts of a Java text are masked as if they stood alone, whatever follows
them.

Code without slashes and quotes is such a part, and a literal with the character behind it is. So is
any text that ends with a newline and leaves no literal and no comment open: nothing is seen across
a newline, and behind it the walk stands between two signs of code.
-/

import BrowserPlan.Proofs.Java.Escape
import BrowserPlan.Proofs.Java.Lexer
import BrowserPlan.Text.Word

namespace BrowserPlan.Java

/-! ### Parts that stand alone -/

/-- Whatever follows, the text shows as given under the mask, and behind it the walk starts
afresh. -/
def ShowsAs (mask : Mask) (text shown : Text) : Prop :=
  ∀ rest, masked mask (text ++ rest) = shown ++ masked mask rest

/-- Two parts that can be shown on their own can be shown one after the other. -/
theorem ShowsAs.append {mask : Mask} {front back shown more : Text}
    (first : ShowsAs mask front shown) (second : ShowsAs mask back more) :
    ShowsAs mask (front ++ back) (shown ++ more) := by
  intro rest
  rw [List.append_assoc, first, second, List.append_assoc]

theorem Passes.masked_append {front rest : Text} {painted : List Cell}
    (passes : Passes .code front rest painted .code) (mask : Mask) :
    masked mask (front ++ rest) = painted.map (Cell.shown mask) ++ masked mask rest := by
  obtain ⟨last, equal⟩ := passes.cellsFrom .plain
  have parts : cells (front ++ rest) = painted ++ cells rest :=
    equal.trans (congrArg _ (cellsFrom_eq_cells rfl rfl rest))
  rw [masked_eq, masked_eq, parts, List.map_append]

/-! ### Code -/

/-- Whether a character opens neither a comment nor a literal. -/
def isBare (char : Char) : Bool :=
  char != '/' && char != '"' && char != '\''

/-- A class of characters that has neither slashes nor quotes is bare. -/
theorem isBare_of_class {kind : Char → Bool} (slash : kind '/' = false) (quote : kind '"' = false)
    (apostrophe : kind '\'' = false) {char : Char} (isKind : kind char = true) :
    isBare char = true := by
  have ne (other : Char) (notKind : kind other = false) : (char != other) = true := by
    rw [bne_iff_ne]
    rintro rfl
    exact absurd isKind (Bool.eq_false_iff.mp notKind)
  rw [isBare, ne '/' slash, ne '"' quote, ne '\'' apostrophe]
  rfl

theorem isBare_of_isWord {char : Char} (isWord : Text.isWord char = true) :
    isBare char = true :=
  isBare_of_class rfl rfl rfl isWord

/-- Bare code is passed over character by character. -/
theorem passes_code {code : Text} (bare : code.all isBare = true) (rest : Text) :
    Passes .code code rest (paintedIn .code .plain code) .code := by
  induction code with
  | nil => exact passes_nil _ _
  | cons char code inductionHypothesis =>
    rw [List.all_cons, Bool.and_eq_true] at bare
    obtain ⟨⟨notSlash, notQuote⟩, notApostrophe⟩ : (char ≠ '/' ∧ char ≠ '"') ∧ char ≠ '\'' := by
      simpa [isBare] using bare.1
    have opens : sign .code char (code ++ rest) = .start := by
      simp [sign, codeSign_eq, notSlash, notQuote, notApostrophe, Cursor.start]
    have here : Passes .code [char] (code ++ rest) (paintedIn .code .plain [char]) .code :=
      passes_sign opens
    exact here.append (inductionHypothesis bare.2)

/-- Code without slashes and quotes shows as it is. -/
theorem showsAs_code {code : Text} (bare : code.all isBare = true) (mask : Mask) :
    ShowsAs mask code code := by
  intro rest
  rw [(passes_code bare rest).masked_append, shown_paintedIn]
  rfl

/-! ### Literals -/

theorem passes_escape (value rest : Text) :
    Passes .string (escape value) rest (paintedIn .string .literal (escape value)) .string := by
  induction value with
  | nil => exact passes_nil _ _
  | cons char value inductionHypothesis =>
    have here : Passes .string (escapeChar char) (escape value ++ rest)
        (paintedIn .string .literal (escapeChar char)) .string := by
      obtain ⟨letter, _, equal, _⟩ | ⟨equal, notQuote, notBackslash, notNewline⟩ :=
        escapeChar_cases char
      · rw [equal]
        exact passes_sign rfl
      · rw [equal]
        refine passes_sign ?_
        simp [sign, quotedSign_eq, notQuote, notBackslash, notNewline]
    have both := here.append inductionHypothesis
    rwa [← escape_cons, paintedIn, paintedIn, ← List.map_append, ← escape_cons] at both

/-- The first quote of a literal opens a string. A quote must not follow the literal, since two
quotes and a third would open a text block. -/
theorem sign_literal {rest : Text} (follows : rest.head? ≠ some '"') (value : Text) :
    sign .code '"' (escape value ++ '"' :: rest) = ⟨.string, 0, .plain⟩ := by
  have opening : (lookahead (escape value ++ '"' :: rest)).2 = false := by
    cases value with
    | nil =>
      rcases rest with _ | ⟨next, rest⟩
      · rfl
      · have notQuote : next ≠ '"' := fun equal => follows (congrArg some equal)
        simp [escape, lookahead, notQuote]
    | cons char value =>
      rw [escape_cons, List.append_assoc]
      rcases escapeChar_cases char with ⟨letter, _, equal, _⟩ | ⟨equal, notQuote, _⟩
      · rw [equal]
        rfl
      · rw [equal]
        exact lookahead_cons_of_ne notQuote _
  rw [sign, codeSign_eq, opening]
  rfl

/-- A literal is passed over unless a third quote makes it a text block. -/
theorem passes_literal_text {rest : Text} (follows : rest.head? ≠ some '"') (value : Text) :
    Passes .code (literal value) rest
      (paintedSign .code .string .plain ['"'] ++ (paintedIn .string .literal (escape value) ++
        paintedSign .string .code .plain ['"'])) .code := by
  have opening : Passes .code ['"'] ((escape value ++ ['"']) ++ rest)
      (paintedSign .code .string .plain ['"']) .string := by
    refine passes_sign ?_
    rw [List.nil_append, List.append_assoc]
    exact sign_literal follows value
  have closing : Passes .string ['"'] rest (paintedSign .string .code .plain ['"']) .code :=
    Token.passes_quote .double rest
  exact opening.append ((passes_escape value _).append closing)

/-- A literal as it shows under a mask, which may hide what stands between the quotes. -/
def shownLiteral (mask : Mask) (value : Text) : Text :=
  '"' :: hideIf mask.literals (escape value) ++ ['"']

/-- A literal shows by itself before anything but another quote. -/
theorem ShowsAs.literal_append {mask : Mask} {back shown : Text} (shows : ShowsAs mask back shown)
    (apart : back.head?.any (· != '"') = true) (value : Text) :
    ShowsAs mask (literal value ++ back) (shownLiteral mask value ++ shown) := by
  intro rest
  have follows : (back ++ rest).head? ≠ some '"' := by
    cases back with
    | nil => cases apart
    | cons char back => simpa using apart
  rw [List.append_assoc, (passes_literal_text follows value).masked_append, shows,
    List.map_append, List.map_append, shown_paintedSign, shown_paintedIn, shown_paintedSign,
    ← List.append_assoc]
  rfl

/-! ### Parts that are left as they are -/

/-- Whether a text is left as it is when comments are blanked out, and the walk starts afresh
behind it, whatever follows. -/
def Uncommented (text : Text) : Prop :=
  ∀ rest, masked .commentsOnly (text ++ rest) = text ++ masked .commentsOnly rest

theorem Uncommented.append {front back : Text} (uncommentedFront : Uncommented front)
    (uncommentedBack : Uncommented back) : Uncommented (front ++ back) :=
  ShowsAs.append uncommentedFront uncommentedBack

/-- Such a text is left as it is when it stands alone. -/
theorem Uncommented.masked_eq {text : Text} (uncommented : Uncommented text) :
    masked .commentsOnly text = text := by
  have masked := uncommented []
  have nothing : Java.masked .commentsOnly [] = [] := rfl
  rwa [nothing, List.append_nil] at masked

/-- Code without slashes and quotes is left as it is. -/
theorem uncommented_code {code : Text} (bare : code.all isBare = true) : Uncommented code :=
  showsAs_code bare .commentsOnly

/-- So is a literal before anything but another quote. -/
theorem Uncommented.literal_append {back : Text} (uncommented : Uncommented back)
    (apart : back.head?.any (· != '"') = true) (value : Text) :
    Uncommented (literal value ++ back) :=
  ShowsAs.literal_append uncommented apart value

/-! ### Lines -/

theorem cellsOver_nil (text : Text) : cellsOver .start text [] = cells text := by
  have whole := cellsFrom_append .start text []
  rw [List.append_nil] at whole
  rw [cells, whole]
  exact (List.append_nil _).symm

theorem passes_of_start {front rest : Text} {painted : List Cell}
    (cells : cellsOver .start front rest = painted)
    (ends : ∃ last, passOver .start front rest = ⟨.code, 0, last⟩) :
    Passes .code front rest painted .code := by
  cases front with
  | nil =>
    obtain rfl : [] = painted := cells
    exact passes_nil .code rest
  | cons char front => exact ⟨fun _ => cells, fun _ => ends⟩

/-- What is still owed of a sign stands in the text, and no newline is owed inside of a comment to
the end of its line. -/
def Cursor.Owes (cursor : Cursor) (text : Text) : Prop :=
  cursor.owed ≤ text.length ∧ (cursor.region = .lineComment → '\n' ∉ text.take cursor.owed)

theorem Cursor.owes_of_owed_eq_zero {cursor : Cursor} (between : cursor.owed = 0) (text : Text) :
    cursor.Owes text := by
  rw [Owes, between]
  exact ⟨Nat.zero_le _, fun _ => List.not_mem_nil⟩

theorem owes_sign (region : Region) (char : Char) (text : Text) :
    (sign region char text).Owes text := by
  obtain between | ⟨next, equal, notLine, quotes⟩ |
    ⟨next, paint, equal, _, ahead, rest, rfl, slash⟩ := sign_cases region char text
  · exact Cursor.owes_of_owed_eq_zero between text
  · obtain ⟨rest, rfl⟩ := eq_quotes_of_lookahead quotes
    rw [equal]
    exact ⟨by simp, fun line => absurd line notLine⟩
  · rw [equal]
    refine ⟨by simp, fun line member => ?_⟩
    have newline : '\n' = ahead := List.mem_singleton.mp member
    exact absurd (newline.trans (slash line)) (by decide)

/-- What is owed is still there behind a step. -/
theorem Cursor.Owes.step {cursor : Cursor} {char : Char} {text : Text}
    (owes : cursor.Owes (char :: text)) : (cursor.step char text).Owes text := by
  unfold Cursor.step
  split
  · rename_i owed equal
    obtain ⟨fits, calm⟩ := owes
    rw [equal] at fits calm
    refine ⟨Nat.le_of_succ_le_succ fits, fun line member => calm line ?_⟩
    rw [List.take_succ_cons]
    exact List.mem_cons_of_mem _ member
  · exact owes_sign cursor.region char text

theorem Cursor.Owes.passOver {cursor : Cursor} {front rest : Text}
    (owes : cursor.Owes (front ++ rest)) : (passOver cursor front rest).Owes rest := by
  induction front generalizing cursor with
  | nil => exact owes
  | cons char front inductionHypothesis => exact inductionHypothesis owes.step

/-- A newline that leaves no literal and no comment open leaves the walk between two signs of
code, whatever follows. -/
theorem Cursor.Owes.step_newline {cursor : Cursor} (owes : cursor.Owes ['\n'])
    (closed : (cursor.step '\n' []).region.atEnd = .code) :
    ∃ last, ∀ rest, cursor.step '\n' rest = ⟨.code, 0, last⟩ := by
  obtain ⟨region, owed, paint⟩ := cursor
  obtain ⟨fits, calm⟩ := owes
  match owed with
  | 0 =>
    refine ⟨.plain, fun rest => ?_⟩
    cases region with
    | code | string | char | lineComment => rfl
    | textBlock | blockComment => cases closed
  | 1 =>
    refine ⟨paint, fun rest => ?_⟩
    cases region with
    | code => rfl
    | lineComment => exact absurd List.mem_cons_self (calm rfl)
    | string | char | textBlock | blockComment => cases closed
  | owed + 2 => exact absurd (Nat.le_of_succ_le_succ fits) (Nat.not_succ_le_zero owed)

/-- The text is empty or ends with a newline. -/
def EndsWithLine (text : Text) : Prop :=
  text = [] ∨ ∃ front, text = front ++ ['\n']

/-- A text that ends with a newline and leaves no literal and no comment open is walked over as
if it stood alone. -/
theorem passes_lines {text : Text} (ends : EndsWithLine text)
    (closed : (scan .full text).openRegion = .code) (rest : Text) :
    Passes .code text rest (cells text) .code := by
  obtain rfl | ⟨front, rfl⟩ := ends
  · exact passes_nil .code rest
  have notQuote : '\n' ≠ '"' := by decide
  have owes : (passOver .start front ['\n']).Owes ['\n'] :=
    Cursor.Owes.passOver (Cursor.owes_of_owed_eq_zero rfl _)
  have last_eq : walkFrom .start (front ++ ['\n']) =
      (passOver .start front ['\n']).step '\n' [] :=
    walkFrom_append _ _ _
  rw [openRegion_scan] at closed
  obtain ⟨last, newline⟩ := owes.step_newline (last_eq ▸ closed)
  have painted (rest : Text) : cellsOver .start (front ++ ['\n']) rest =
      cellsOver .start front ['\n'] ++ [⟨'\n', (passOver .start front ['\n']).region, last⟩] := by
    rw [cellsOver_append, List.singleton_append, cellsOver_cons notQuote _ _ rest [],
      passOver_cons notQuote _ _ rest [], cellsOver, List.nil_append, newline rest]
    rfl
  refine passes_of_start ?_ ⟨last, ?_⟩
  · rw [painted, ← painted [], cellsOver_nil]
  · rw [passOver_append, List.singleton_append, passOver_cons notQuote _ _ rest [], passOver,
      List.nil_append, newline rest]
    rfl

/-- Lines that leave no literal and no comment open. -/
structure Lines where
  text : Text
  ends : EndsWithLine text
  openRegion : (scan .full text).openRegion = .code

/-- Whole lines can be shown on their own. -/
theorem Lines.showsAs (lines : Lines) (mask : Mask) :
    ShowsAs mask lines.text (masked mask lines.text) := by
  intro rest
  rw [(passes_lines lines.ends lines.openRegion rest).masked_append mask, ← masked_eq]

end BrowserPlan.Java
