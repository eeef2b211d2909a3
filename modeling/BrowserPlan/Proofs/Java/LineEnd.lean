/-
This file proves where the walk over Java text comes back to code: at the end of every line that
leaves a literal open.

A newline ends the literal that it finds open, and what follows is read as if it stood alone. There
is one way to get past it. A backslash takes the next character with it, also if that is a newline,
and the literal then goes on in the next line. Whether that is so is seen from the line alone: the
backslashes at its end are an odd number.
-/

import BrowserPlan.Java.Syntax
import BrowserPlan.Proofs.Java.Lexer
import BrowserPlan.Proofs.Java.Segment

namespace BrowserPlan.Java

/-! ### A newline ahead -/

theorem lookahead_newline (rest : Text) : lookahead ('\n' :: rest) = (some '\n', false) := by
  cases rest <;> rfl

/-- A character before a newline is met and painted as it is at the end of a text. -/
theorem sign_newline_ahead (region : Region) (char : Char) (rest : Text) :
    (sign region char ('\n' :: rest)).region = (sign region char []).region ∧
      (sign region char ('\n' :: rest)).paint = (sign region char []).paint := by
  have ends : lookahead [] = (none, false) := rfl
  cases region with
  | code => simp [sign, codeSign_eq, lookahead_newline, ends]
  | string | char =>
    simp only [sign, quotedSign_eq, lookahead_newline, ends]
    split_ifs <;> simp_all
  | textBlock =>
    simp only [sign, textBlockSign_eq, lookahead_newline, ends]
    split_ifs <;> simp_all
  | lineComment => exact ⟨rfl, rfl⟩
  | blockComment => simp [sign, blockCommentSign_eq, lookahead_newline, ends]

/-- A newline behind the next character does not matter to a step. -/
theorem Cursor.step_newline_ahead (cursor : Cursor) (char next : Char) (front rest : Text) :
    cursor.step char (next :: front ++ '\n' :: rest) = cursor.step char (next :: front) := by
  have same : lookahead (next :: front ++ '\n' :: rest) = lookahead (next :: front) := by
    cases front <;> simp [lookahead]
  rw [step, step]
  split
  · rfl
  · exact sign_eq_of_lookahead _ _ same

/-- A newline that is next is as good as the end of the text to region and paint. -/
theorem Cursor.step_newline_next (cursor : Cursor) (char : Char) (rest : Text) :
    (cursor.step char ('\n' :: rest)).region = (cursor.step char []).region ∧
      (cursor.step char ('\n' :: rest)).paint = (cursor.step char []).paint := by
  rw [step, step]
  split
  · exact ⟨rfl, rfl⟩
  · exact sign_newline_ahead cursor.region char rest

/-- Up to a newline a text is painted as if it ended there, and the walk comes to the newline in the
region in which it would end. -/
theorem cellsOver_newline_ahead (cursor : Cursor) (front rest : Text) :
    cellsOver cursor front ('\n' :: rest) = cellsFrom cursor front ∧
      (passOver cursor front ('\n' :: rest)).region = (walkFrom cursor front).region := by
  induction front generalizing cursor with
  | nil => exact ⟨rfl, rfl⟩
  | cons char front inductionHypothesis =>
    cases front with
    | nil =>
      obtain ⟨region, paint⟩ := cursor.step_newline_next char rest
      refine ⟨?_, region⟩
      show [Cell.mk char cursor.region (cursor.step char ('\n' :: rest)).paint] = _
      rw [paint]
      rfl
    | cons next front =>
      have step := cursor.step_newline_ahead char next front rest
      obtain ⟨cells, region⟩ := inductionHypothesis (cursor.step char (next :: front))
      rw [cellsOver, passOver, cellsFrom, walkFrom, step]
      exact ⟨congrArg (List.cons _) cells, region⟩

/-! ### What a backslash takes with it -/

/-- Whether the walk is inside a literal that ends with its line. -/
def Region.IsQuoted (region : Region) : Prop :=
  region = .string ∨ region = .char

/-- A backslash escapes what follows unless it is escaped itself. -/
theorem escapesNext_concat (before : Text) (char : Char) :
    escapesNext (before ++ [char]) = (char = '\\' && !escapesNext before) := by
  unfold escapesNext
  rw [List.reverse_append, List.reverse_singleton, List.singleton_append]
  by_cases backslash : char = '\\'
  · rw [List.takeWhile_cons_of_pos (by simpa using backslash), List.length_cons]
    simp only [backslash, decide_true, Bool.true_and]
    by_cases odd : (before.reverse.takeWhile (· = '\\')).length % 2 = 1
    · simp [odd]
      omega
    · simp [odd]
      omega
  · rw [List.takeWhile_cons_of_neg (by simpa using backslash)]
    simp [backslash]

/-- Inside a literal the walk owes a character exactly if the text passed over escapes it. -/
def Cursor.Agrees (escaped : Bool) (cursor : Cursor) : Prop :=
  cursor.region.IsQuoted →
    if escaped then cursor.owed = 1 ∧ cursor.paint = .literal else cursor.owed = 0

theorem Cursor.agrees_of_not_isQuoted {cursor : Cursor} (apart : ¬ cursor.region.IsQuoted)
    (escaped : Bool) : cursor.Agrees escaped :=
  fun quoted => absurd quoted apart

/-- A literal opens at a quote, and nothing is owed then. -/
theorem agrees_codeSign (char : Char) (following : Text) (escaped : Bool) :
    (codeSign char following).Agrees (char = '\\' && escaped) := by
  rw [codeSign_eq]
  split_ifs with lineMark blockMark textMark string quote
  · exact Cursor.agrees_of_not_isQuoted (by simp [Region.IsQuoted]) _
  · exact Cursor.agrees_of_not_isQuoted (by simp [Region.IsQuoted]) _
  · exact Cursor.agrees_of_not_isQuoted (by simp [Region.IsQuoted]) _
  · rw [string]
    exact fun _ => rfl
  · rw [quote]
    exact fun _ => rfl
  · exact Cursor.agrees_of_not_isQuoted (by simp [Region.IsQuoted]) _

theorem agrees_quotedSign (region : Region) (quote char : Char) {following : Text}
    (more : (lookahead following).1 ≠ none) :
    (quotedSign region quote char following).Agrees (char = '\\') := by
  rw [quotedSign_eq]
  by_cases backslash : char = '\\'
  · rw [if_pos ⟨backslash, more⟩, decide_eq_true backslash]
    exact fun _ => ⟨rfl, rfl⟩
  · rw [if_neg fun both => backslash both.1, decide_eq_false backslash]
    split_ifs <;> exact fun _ => rfl

/-- A literal opens only in code. -/
theorem not_isQuoted_sign {region : Region} (apart : ¬ region.IsQuoted) (inside : region ≠ .code)
    (char : Char) (following : Text) : ¬ (sign region char following).region.IsQuoted := by
  cases region with
  | code => exact absurd rfl inside
  | string => exact absurd (.inl rfl) apart
  | char => exact absurd (.inr rfl) apart
  | textBlock =>
    rw [sign, textBlockSign_eq]
    split_ifs <;> simp [Region.IsQuoted]
  | lineComment =>
    rw [sign, lineCommentSign]
    split_ifs <;> simp [Region.IsQuoted]
  | blockComment =>
    rw [sign, blockCommentSign_eq]
    split_ifs <;> simp [Region.IsQuoted]

/-- Inside a literal the cursor owes a character just if a backslash escapes it: one step keeps
that. -/
theorem Cursor.Agrees.step {escaped : Bool} {cursor : Cursor} (agrees : cursor.Agrees escaped)
    (char : Char) {following : Text} (more : following ≠ []) :
    (cursor.step char following).Agrees (char = '\\' && !escaped) := by
  obtain ⟨region, owed, paint⟩ := cursor
  have ahead : (lookahead following).1 ≠ none := by
    rwa [Ne, lookahead_fst_eq_none_iff]
  match owed with
  | owed + 1 =>
    intro quoted
    have passed := agrees quoted
    cases escaped with
    | false => cases passed
    | true =>
      rw [Bool.not_true, Bool.and_false]
      exact Nat.succ_inj.mp passed.1
  | 0 =>
    -- Nothing is owed, so inside a literal the character is not escaped.
    have unescaped : region.IsQuoted → escaped = false := fun quoted => by
      cases escaped with
      | false => rfl
      | true => cases (agrees quoted).1
    rw [Cursor.step]
    cases region with
    | code => exact agrees_codeSign char following _
    | string =>
      rw [unescaped (.inl rfl), Bool.not_false, Bool.and_true]
      exact agrees_quotedSign .string '"' char ahead
    | char =>
      rw [unescaped (.inr rfl), Bool.not_false, Bool.and_true]
      exact agrees_quotedSign .char '\'' char ahead
    | textBlock | lineComment | blockComment =>
      refine agrees_of_not_isQuoted (not_isQuoted_sign ?_ ?_ char following) _
      · simp [Region.IsQuoted]
      · exact Region.noConfusion

/-- Wherever a literal is open, the cursor owes a character just if a backslash escapes it. -/
theorem agrees_passOver (front : Text) {following : Text} (more : following ≠ []) :
    (passOver .start front following).Agrees (escapesNext front) := by
  induction front using List.reverseRecOn generalizing following with
  | nil => exact fun _ => rfl
  | append_singleton front char inductionHypothesis =>
    rw [passOver_append, escapesNext_concat]
    exact (inductionHypothesis (List.cons_ne_nil _ _)).step char more

/-! ### Behind the line end -/

/-- Where the walk stands behind a newline that finds a literal open. -/
def behindNewline (front : Text) : Cursor :=
  if escapesNext front then ⟨(walkFrom .start front).region, 0, .literal⟩ else .start

/-- What a newline inside a literal does is told by the text before it. -/
theorem step_passOver_newline {front : Text} (quoted : (walkFrom .start front).region.IsQuoted)
    (rest : Text) :
    (passOver .start front ('\n' :: rest)).step '\n' rest = behindNewline front := by
  have region := (cellsOver_newline_ahead .start front rest).2
  have agrees := agrees_passOver front (List.cons_ne_nil '\n' rest)
  rw [behindNewline]
  rw [← region] at quoted ⊢
  generalize passOver .start front ('\n' :: rest) = cursor at agrees quoted ⊢
  obtain ⟨region, owed, paint⟩ := cursor
  have stands := agrees quoted
  cases escaped : escapesNext front with
  | true =>
    rw [escaped] at stands
    obtain ⟨rfl, rfl⟩ := stands
    rfl
  | false =>
    rw [escaped] at stands
    obtain rfl := stands
    exact Region.EndsWithLine.sign_newline (.inr quoted) rest

/-- Up to a newline inside a literal all is painted as if the text ended there. -/
theorem cells_newline {front : Text} (quoted : (walkFrom .start front).region.IsQuoted)
    (rest : Text) :
    cells (front ++ '\n' :: rest) =
      cells front ++
        ⟨'\n', (walkFrom .start front).region, (behindNewline front).paint⟩ ::
          cellsFrom (behindNewline front) rest := by
  obtain ⟨painted, region⟩ := cellsOver_newline_ahead .start front rest
  rw [cells, cellsFrom_append, cellsFrom_cons, painted, region, step_passOver_newline quoted]
  rfl

theorem walkFrom_newline {front : Text} (quoted : (walkFrom .start front).region.IsQuoted)
    (rest : Text) :
    walkFrom .start (front ++ '\n' :: rest) = walkFrom (behindNewline front) rest := by
  rw [walkFrom_append, walkFrom, step_passOver_newline quoted]

theorem map_char_cells (text : Text) : (cells text).map Cell.char = text := by
  have whole := cellsFrom_append .start text []
  rw [List.append_nil, cellsFrom, List.append_nil] at whole
  rw [cells, whole, map_char_cellsOver]

theorem cutOffFrom_add (line more : Nat) (cells : List Cell) :
    cutOffFrom (more + line) cells =
      (cutOffFrom line cells).map fun entry => (entry.1, more + entry.2) := by
  induction cells generalizing line with
  | nil => rfl
  | cons cell cells inductionHypothesis =>
    have next : (if cell.char = '\n' then more + line + 1 else more + line) =
        more + if cell.char = '\n' then line + 1 else line := by
      split <;> rfl
    rw [cutOffFrom, cutOffFrom, next, inductionHypothesis]
    split <;> rfl

/-- What is cut off in some cells is cut off in one of their lines. -/
theorem line_of_mem_cutOffFrom {line : Nat} {cells : List Cell} {entry : Region × Nat}
    (member : entry ∈ cutOffFrom line cells) :
    line ≤ entry.2 ∧ entry.2 < line + (cells.map Cell.char).count '\n' := by
  induction cells generalizing line with
  | nil => cases member
  | cons cell cells inductionHypothesis =>
    rw [cutOffFrom] at member
    rw [List.map_cons, List.count_cons]
    by_cases newline : cell.char = '\n'
    · rw [if_pos newline] at member
      have later := @inductionHypothesis (line + 1)
      simp only [newline, beq_self_eq_true, if_true]
      split_ifs at member
      · obtain rfl | behind := List.mem_cons.mp member
        · exact ⟨le_rfl, by simp⟩
        · have := later behind
          omega
      · have := later member
        omega
    · have quiet : cell.cutsOff = false := Cell.cutsOff_eq_false (.inr newline)
      rw [if_neg newline, if_neg (Bool.eq_false_iff.mp quiet)] at member
      have later := inductionHypothesis member
      simpa [newline] using later

theorem balanceErrors_ne_nil {scan : Scan} (cutOff : scan.cutOff ≠ []) :
    balanceErrors scan ≠ [] := by
  intro none
  rw [balanceErrors] at none
  exact cutOff (List.map_eq_nil_iff.mp (List.append_eq_nil_iff.mp none).2)

/-- A text with a literal that is cut off is not valid. -/
theorem valid_eq_false_of_cutOff {text : Text} (cutOff : (scan .full text).cutOff ≠ [])
    (expected : Int) : (checkSyntax text expected).valid = false := by
  show List.isEmpty (balanceErrors (scan .full text) ++ _) = false
  rw [List.isEmpty_eq_false_iff]
  exact List.append_ne_nil_of_left_ne_nil (balanceErrors_ne_nil cutOff) _

theorem Region.eq_atEnd_of_isQuoted {region : Region} (quoted : region.atEnd.IsQuoted) :
    region = region.atEnd := by
  cases region with
  | lineComment => simp [atEnd, IsQuoted] at quoted
  | _ => rfl

/-! ### Every line end but an escaped one -/

/-- The text is read up to the newline, and what follows it as if it stood alone. The newline cuts
off the literal that is open there, so that the text is never valid. -/
structure Resumes (front rest : Text) : Prop where
  masked (mask : Mask) :
    masked mask (front ++ '\n' :: rest) = masked mask front ++ '\n' :: masked mask rest
  cutOff :
    (scan .full (front ++ '\n' :: rest)).cutOff =
      (scan .full front).cutOff ++ ((scan .full front).openRegion, front.count '\n' + 1) ::
        (scan .full rest).cutOff.map fun entry => (entry.1, front.count '\n' + 1 + entry.2)
  openRegion : (scan .full (front ++ '\n' :: rest)).openRegion = (scan .full rest).openRegion
  depth :
    (scan .full (front ++ '\n' :: rest)).depth =
      (scan .full front).depth + (scan .full rest).depth
  lowest :
    (scan .full (front ++ '\n' :: rest)).lowest =
      min (scan .full front).lowest ((scan .full front).depth + (scan .full rest).lowest)
  invalid (expected : Int) : (checkSyntax (front ++ '\n' :: rest) expected).valid = false

/-- The literal that is open at the newline goes on behind it, and nothing is cut off there. -/
structure RunsOn (front rest : Text) : Prop where
  masked (mask : Mask) :
    masked mask (front ++ '\n' :: rest) =
      masked mask front ++ '\n' ::
        (cellsFrom ⟨(scan .full front).openRegion, 0, .literal⟩ rest).map (Cell.shown mask)
  cutOff (region : Region) :
    (region, front.count '\n' + 1) ∉ (scan .full (front ++ '\n' :: rest)).cutOff

theorem resumes_of_cells {front rest : Text} {region : Region} (quoted : region.IsQuoted)
    (opens : (scan .full front).openRegion = region)
    (equal : cells (front ++ '\n' :: rest) = cells front ++ ⟨'\n', region, .plain⟩ :: cells rest)
    (walk : walkFrom .start (front ++ '\n' :: rest) = walkFrom .start rest) :
    Resumes front rest := by
  have masks (mask : Mask) :
      masked mask (front ++ '\n' :: rest) = masked mask front ++ '\n' :: masked mask rest := by
    rw [masked_eq, masked_eq, masked_eq, equal, List.map_append, List.map_cons]
    rfl
  have cuts : Cell.cutsOff ⟨'\n', region, .plain⟩ = true := by
    obtain rfl | rfl := quoted <;> rfl
  have cutOff : (scan .full (front ++ '\n' :: rest)).cutOff =
      (scan .full front).cutOff ++ ((scan .full front).openRegion, front.count '\n' + 1) ::
        (scan .full rest).cutOff.map fun entry => (entry.1, front.count '\n' + 1 + entry.2) := by
    rw [cutOff_scan, cutOff_scan, cutOff_scan, equal, cutOffFrom_append, map_char_cells,
      cutOffFrom, if_pos cuts, if_pos rfl, ← cutOffFrom_add, opens, Nat.add_comm 1]
  refine ⟨masks, cutOff, ?_, ?_, ?_, ?_⟩
  · rw [openRegion_scan, openRegion_scan, walk]
  · rw [depth_scan, depth_scan, depth_scan, masks, balance_append, balance_cons]
    show _ + (0 + _) = _
    rw [Int.zero_add]
  · rw [lowest_scan, lowest_scan, lowest_scan, depth_scan, masks, List.map_append,
      lowestDepth_append, List.map_cons, lowestDepth]
    show min _ (balance _ + min 0 (0 + _)) = _
    rw [Int.zero_add, min_eq_right (lowestDepth_nonpos _)]
  · exact valid_eq_false_of_cutOff (by rw [cutOff]; simp)

theorem runsOn_of_cells {front rest : Text} {region : Region}
    (opens : (scan .full front).openRegion = region)
    (equal : cells (front ++ '\n' :: rest) =
      cells front ++ ⟨'\n', region, .literal⟩ :: cellsFrom ⟨region, 0, .literal⟩ rest) :
    RunsOn front rest := by
  refine ⟨fun mask => ?_, fun other member => ?_⟩
  · have newline : Cell.shown mask ⟨'\n', region, .literal⟩ = '\n' := by
      simp [Cell.shown]
    rw [masked_eq, masked_eq, equal, List.map_append, List.map_cons, newline, opens]
  · -- The newline cuts nothing off, and every other one stands in a line before or behind it.
    rw [cutOff_scan, equal, cutOffFrom_append, map_char_cells, cutOffFrom, if_pos rfl,
      if_neg (by simp [Cell.cutsOff])] at member
    obtain before | behind := List.mem_append.mp member
    · have line := line_of_mem_cutOffFrom before
      rw [map_char_cells] at line
      omega
    · have line := line_of_mem_cutOffFrom behind
      omega

/-- Where a literal is open at a newline, the walk starts anew behind it exactly if the text before
does not end with an unpaired backslash. Otherwise the literal runs on into the next line. -/
theorem resumes_iff_not_escapesNext {front : Text}
    (quoted : (scan .full front).openRegion.IsQuoted) (rest : Text) :
    (Resumes front rest ↔ escapesNext front = false) ∧
      (escapesNext front = true → RunsOn front rest) := by
  have opens : (walkFrom .start front).region = (scan .full front).openRegion := by
    rw [openRegion_scan] at quoted ⊢
    exact Region.eq_atEnd_of_isQuoted quoted
  have inside : (walkFrom .start front).region.IsQuoted := by rwa [opens]
  have painted := cells_newline inside rest
  have walk := walkFrom_newline inside rest
  have runsOn (escaped : escapesNext front = true) : RunsOn front rest := by
    rw [behindNewline, escaped, if_pos rfl] at painted
    exact runsOn_of_cells opens.symm painted
  refine ⟨⟨fun resumes => ?_, fun unescaped => ?_⟩, runsOn⟩
  · refine Bool.eq_false_iff.mpr fun escaped =>
      (runsOn escaped).cutOff (scan .full front).openRegion ?_
    rw [resumes.cutOff]
    exact List.mem_append_right _ List.mem_cons_self
  · rw [behindNewline, unescaped, if_neg Bool.false_ne_true] at painted walk
    exact resumes_of_cells inside opens.symm painted walk

/-- A quote in another literal and a pair of backslashes escape no newline: the character literal
is cut off in the second line, and the brace behind it counts. -/
theorem resumes_behind_paired_backslashes :
    (scan .full ("\"'\"\n'\\\\" : String).toList).openRegion.IsQuoted ∧
      Resumes ("\"'\"\n'\\\\" : String).toList ("\x7b" : String).toList := by
  have quoted : (scan .full ("\"'\"\n'\\\\" : String).toList).openRegion.IsQuoted :=
    .inr (by decide +kernel)
  exact ⟨quoted, (resumes_iff_not_escapesNext quoted _).1.mpr (by decide +kernel)⟩

/-- A class with a literal that goes on over the end of its line is found valid. -/
theorem valid_with_escaped_newline :
    let front : Text :=
      "import org.junit.jupiter.api.Test; public class A \x7b @BeforeEach WebDriver d = \"\\"
    let rest : Text := "\"; @AfterEach @Test void t() \x7b\x7d \x7d"
    (scan .full front).openRegion = .string ∧
      masked .full (front ++ '\n' :: rest) ≠ masked .full front ++ '\n' :: masked .full rest ∧
      (.string, front.count '\n' + 1) ∉ (scan .full (front ++ '\n' :: rest)).cutOff ∧
      (checkSyntax (front ++ '\n' :: rest) 1).valid = true := by
  decide +kernel

end BrowserPlan.Java
