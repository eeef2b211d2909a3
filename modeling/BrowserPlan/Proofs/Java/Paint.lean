/-
This file describes Java text by its signs, the description that everything about the loop over
the text is proved by.

The description takes one character at a time. Where it stands between two signs, it decides from
the region and the next characters how many characters belong to the next sign, how they are
painted and which region comes after; the further characters of a sign are then passed without a
decision. So every character is painted exactly once, and everything else about the text is read
off the painted characters: the masked text, the depth of the braces and the literals that a line
end cuts off.
-/

import BrowserPlan.Java.Scan
import Mathlib.Data.List.Basic

namespace BrowserPlan.Java

/-! ### Paint -/

/-- What a character is part of: a comment, the contents of a literal, or neither. The marks
that open and close a literal are plain, and so is a newline that cuts a literal off. -/
inductive Paint where
  | plain
  | literal
  | comment
  deriving DecidableEq, Repr

/-- Where the walk stands: its region, how many characters of the current sign are still to be
passed, and how the current sign is painted. -/
structure Cursor where
  region : Region
  owed : Nat
  paint : Paint
  deriving DecidableEq, Repr

/-- The walk starts between two signs of code. -/
def Cursor.start : Cursor :=
  ⟨.code, 0, .plain⟩

/-! ### Signs -/

/-- The sign that starts with a character of code, given the characters that follow. -/
def codeSign (char : Char) (following : Text) : Cursor :=
  match char, following with
  | '/', '/' :: _ => ⟨.lineComment, 1, .comment⟩
  | '/', '*' :: _ => ⟨.blockComment, 1, .comment⟩
  | '"', '"' :: '"' :: _ => ⟨.textBlock, 2, .plain⟩
  | '"', _ => ⟨.string, 0, .plain⟩
  | '\'', _ => ⟨.char, 0, .plain⟩
  | _, _ => ⟨.code, 0, .plain⟩

/-- The sign inside a literal that ends at a quote or, cut off, at a newline. A backslash takes
the next character with it. -/
def quotedSign (region : Region) (quote char : Char) (following : Text) : Cursor :=
  if char = '\\' && !following.isEmpty then ⟨region, 1, .literal⟩
  else if char = quote || char = '\n' then ⟨.code, 0, .plain⟩
  else ⟨region, 0, .literal⟩

/-- The sign inside a text block, which ends at three quotes. -/
def textBlockSign (char : Char) (following : Text) : Cursor :=
  match char, following with
  | '"', '"' :: '"' :: _ => ⟨.code, 2, .plain⟩
  | '\\', _ :: _ => ⟨.textBlock, 1, .literal⟩
  | _, _ => ⟨.textBlock, 0, .literal⟩

/-- The sign inside a comment that ends with its line. -/
def lineCommentSign (char : Char) : Cursor :=
  if char = '\n' then ⟨.code, 0, .plain⟩ else ⟨.lineComment, 0, .comment⟩

/-- The sign inside a comment that ends at an asterisk and a slash. -/
def blockCommentSign (char : Char) (following : Text) : Cursor :=
  match char, following with
  | '*', '/' :: _ => ⟨.code, 1, .comment⟩
  | _, _ => ⟨.blockComment, 0, .comment⟩

/-- The sign that starts with a character in the given region. -/
def sign (region : Region) (char : Char) (following : Text) : Cursor :=
  match region with
  | .code => codeSign char following
  | .string => quotedSign .string '"' char following
  | .char => quotedSign .char '\'' char following
  | .textBlock => textBlockSign char following
  | .lineComment => lineCommentSign char
  | .blockComment => blockCommentSign char following

/-- One step over a character: the rest of the current sign is passed first. -/
def Cursor.step (cursor : Cursor) (char : Char) (following : Text) : Cursor :=
  match cursor.owed with
  | owed + 1 => { cursor with owed }
  | 0 => sign cursor.region char following

/-- A character, the region in which it was met, and its paint. -/
structure Cell where
  char : Char
  region : Region
  paint : Paint
  deriving DecidableEq, Repr

/-- The painted characters of a text, walked from a cursor on. -/
def cellsFrom (cursor : Cursor) : Text → List Cell
  | [] => []
  | char :: text =>
      let next := cursor.step char text
      ⟨char, cursor.region, next.paint⟩ :: cellsFrom next text

/-- Where the walk over a text ends. -/
def walkFrom (cursor : Cursor) : Text → Cursor
  | [] => cursor
  | char :: text => walkFrom (cursor.step char text) text

/-- The painted characters of a whole text. -/
def cells (text : Text) : List Cell :=
  cellsFrom .start text

/-- Characters of one paint that are met in one region. -/
def paintedIn (region : Region) (paint : Paint) (text : Text) : List Cell :=
  text.map fun char => ⟨char, region, paint⟩

/-- The characters of a sign, of which the first is met in one region and the others in the
next. -/
def paintedSign (source target : Region) (paint : Paint) : Text → List Cell
  | [] => []
  | char :: more => ⟨char, source, paint⟩ :: paintedIn target paint more

/-! ### What the signs see ahead -/

/-- All that the walk takes from the characters that follow: the first of them, and whether the
next two are quotes. -/
def lookahead : Text → Option Char × Bool
  | [] => (none, false)
  | [first] => (some first, false)
  | first :: second :: _ => (some first, first = '"' && second = '"')

theorem lookahead_fst (text : Text) : (lookahead text).1 = text.head? := by
  match text with
  | [] => rfl
  | [_] => rfl
  | _ :: _ :: _ => rfl

theorem lookahead_fst_eq_none_iff {text : Text} : (lookahead text).1 = none ↔ text = [] := by
  rw [lookahead_fst, List.head?_eq_none_iff]

theorem lookahead_cons_of_ne {char : Char} (notQuote : char ≠ '"') (following : Text) :
    (lookahead (char :: following)).2 = false := by
  cases following with
  | nil => rfl
  | cons second following => simp [lookahead, notQuote]

/-- The signs of code by what the walk sees. -/
theorem codeSign_eq (char : Char) (following : Text) :
    codeSign char following =
      if char = '/' ∧ (lookahead following).1 = some '/' then ⟨.lineComment, 1, .comment⟩
      else if char = '/' ∧ (lookahead following).1 = some '*' then ⟨.blockComment, 1, .comment⟩
      else if char = '"' ∧ (lookahead following).2 = true then ⟨.textBlock, 2, .plain⟩
      else if char = '"' then ⟨.string, 0, .plain⟩
      else if char = '\'' then ⟨.char, 0, .plain⟩
      else ⟨.code, 0, .plain⟩ := by
  rcases following with _ | ⟨_, _ | ⟨_, _⟩⟩ <;> unfold codeSign <;> split <;>
    simp_all [lookahead] <;> grind

theorem quotedSign_eq (region : Region) (quote char : Char) (following : Text) :
    quotedSign region quote char following =
      if char = '\\' ∧ (lookahead following).1 ≠ none then ⟨region, 1, .literal⟩
      else if char = quote ∨ char = '\n' then ⟨.code, 0, .plain⟩
      else ⟨region, 0, .literal⟩ := by
  rcases following with _ | ⟨_, _ | ⟨_, _⟩⟩ <;> simp [quotedSign, lookahead]

theorem textBlockSign_eq (char : Char) (following : Text) :
    textBlockSign char following =
      if char = '"' ∧ (lookahead following).2 = true then ⟨.code, 2, .plain⟩
      else if char = '\\' ∧ (lookahead following).1 ≠ none then ⟨.textBlock, 1, .literal⟩
      else ⟨.textBlock, 0, .literal⟩ := by
  rcases following with _ | ⟨_, _ | ⟨_, _⟩⟩ <;> unfold textBlockSign <;> split <;>
    simp_all [lookahead] <;> grind

theorem blockCommentSign_eq (char : Char) (following : Text) :
    blockCommentSign char following =
      if char = '*' ∧ (lookahead following).1 = some '/' then ⟨.code, 1, .comment⟩
      else ⟨.blockComment, 0, .comment⟩ := by
  match following with
  | [] => simp [blockCommentSign, lookahead]
  | [next] => by_cases star : char = '*' <;> by_cases slash : next = '/' <;>
      simp [blockCommentSign, lookahead, star, slash]
  | next :: _ :: _ => by_cases star : char = '*' <;> by_cases slash : next = '/' <;>
      simp [blockCommentSign, lookahead, star, slash]

/-- The sign that starts with a character depends on no more than that. -/
theorem sign_eq_of_lookahead (region : Region) (char : Char) {following other : Text}
    (same : lookahead following = lookahead other) :
    sign region char following = sign region char other := by
  cases region with
  | code => simp only [sign, codeSign_eq, same]
  | string => simp only [sign, quotedSign_eq, same]
  | char => simp only [sign, quotedSign_eq, same]
  | textBlock => simp only [sign, textBlockSign_eq, same]
  | lineComment => rfl
  | blockComment => simp only [sign, blockCommentSign_eq, same]

theorem eq_quotes_of_lookahead {following : Text} (quotes : (lookahead following).2 = true) :
    ∃ rest, following = '"' :: '"' :: rest := by
  match following with
  | [] => cases quotes
  | [_] => cases quotes
  | first :: second :: rest =>
    simp only [lookahead, Bool.and_eq_true, decide_eq_true_eq] at quotes
    exact ⟨rest, by rw [quotes.1, quotes.2]⟩

/-! ### What is read off painted characters -/

/-- Whether a mask hides what is painted so. -/
def Mask.hides (mask : Mask) : Paint → Bool
  | .plain => false
  | .literal => mask.literals
  | .comment => mask.comments

/-- A character as it is shown under a mask: a hidden one is a space, but a newline stays. -/
def Cell.shown (mask : Mask) (cell : Cell) : Char :=
  if mask.hides cell.paint && cell.char ≠ '\n' then ' ' else cell.char

/-- What a painted character adds to the depth: only braces of code count. -/
def Cell.weight (cell : Cell) : Int :=
  if cell.paint = .plain then Java.weight cell.char else 0

/-- The depth after the given steps. -/
def depthAfter : List Int → Int
  | [] => 0
  | step :: steps => step + depthAfter steps

/-- The lowest depth on the way, the start included. -/
def lowestDepth : List Int → Int
  | [] => 0
  | step :: steps => min 0 (step + lowestDepth steps)

/-! ### Literals cut off by a line end -/

/-- Whether a character is a newline that cuts a literal off. -/
def Cell.cutsOff (cell : Cell) : Bool :=
  cell.char = '\n' && cell.paint = .plain && (cell.region = .string || cell.region = .char)

/-- The literals that a newline cuts off, each with its line, counting from `line`. -/
def cutOffFrom (line : Nat) : List Cell → List (Region × Nat)
  | [] => []
  | cell :: cells =>
      let following := cutOffFrom (if cell.char = '\n' then line + 1 else line) cells
      if cell.cutsOff then (cell.region, line) :: following else following

end BrowserPlan.Java
