/-
This file walks over Java text once and tells apart code, comments and literals.

The walk is a loop over positions. It is always in one of six regions. A round reads the
character at its position, may look at the two that follow, appends a piece to the masked text
and moves the position by one, two or three characters. The braces of code move the depth, and a
newline in a literal cuts the literal off. A mask decides whether the pieces of comments and of
the contents of literals are blank; so the masked text lines up with the text.
-/

import BrowserPlan.Text.Basic

namespace BrowserPlan.Java

/-! ### Regions and masks -/

/-- Where in the text the walk is. -/
inductive Region where
  | code
  | string
  | char
  | textBlock
  | lineComment
  | blockComment
  deriving DecidableEq, Repr

/-- The region that is still open at the end: a comment to the end of its line is not. -/
def Region.atEnd : Region → Region
  | .lineComment => .code
  | region => region

/-- What is blanked out: the contents of literals, comments, or both. -/
structure Mask where
  literals : Bool
  comments : Bool
  deriving DecidableEq, Repr

/-- The mask that leaves nothing but code. -/
def Mask.full : Mask :=
  ⟨true, true⟩

/-- The mask that leaves code and literals. -/
def Mask.commentsOnly : Mask :=
  ⟨false, true⟩

/-- What stands for a character that is blanked out: a newline stays one. -/
def blankOf (char : Char) : Char :=
  if char = '\n' then char else ' '

/-! ### The loop -/

/-- Where the loop stands between two rounds and what it has found so far. The pieces of the
masked text are kept with the newest first. -/
structure Loop where
  region : Region
  position : Nat
  pieces : List Text
  depth : Int
  lowest : Int
  cutOff : List (Region × Nat)
  deriving DecidableEq, Repr

/-- The loop starts in code, at the first character. -/
def Loop.start : Loop :=
  ⟨.code, 0, [], 0, 0, []⟩

/-- Appends a piece and goes on in a region, so many characters further. -/
def Loop.goOn (loop : Loop) (piece : Text) (moved : Nat) (region : Region) : Loop :=
  { loop with region, position := loop.position + moved, pieces := piece :: loop.pieces }

/-- The mark that opens and closes a text block. -/
def tripleQuote : Text :=
  ['"', '"', '"']

/-- A round in a comment that ends with its line. -/
def Loop.inLineComment (mask : Mask) (loop : Loop) (char : Char) : Loop :=
  if char = '\n' then loop.goOn [char] 1 .code
  else loop.goOn [if mask.comments then blankOf char else char] 1 .lineComment

/-- A round in a comment that ends at an asterisk and a slash. -/
def Loop.inBlockComment (mask : Mask) (loop : Loop) (char : Char) (following : Text) : Loop :=
  if char = '*' && following.head? = some '/' then
    loop.goOn (if mask.comments then [' ', ' '] else ['*', '/']) 2 .code
  else loop.goOn [if mask.comments then blankOf char else char] 1 .blockComment

/-- A round over a backslash in a literal and the character that it takes with it, which may be
a newline. -/
def Loop.overEscape (mask : Mask) (loop : Loop) (char next : Char) (region : Region) : Loop :=
  loop.goOn (if mask.literals then [blankOf char, blankOf next] else [char, next]) 2 region

/-- A round over a character of a literal. -/
def Loop.overContents (mask : Mask) (loop : Loop) (char : Char) (region : Region) : Loop :=
  loop.goOn [if mask.literals then blankOf char else char] 1 region

/-- A round in a text block, which ends at three quotes. -/
def Loop.inTextBlock (mask : Mask) (loop : Loop) (char : Char) (following : Text) : Loop :=
  if tripleQuote.isPrefixOf (char :: following) then loop.goOn tripleQuote 3 .code
  else
    match char, following with
    | '\\', next :: _ => loop.overEscape mask char next .textBlock
    | _, _ => loop.overContents mask char .textBlock

/-- A round in a literal that ends at a quote or, cut off, at a newline. The line of a literal
that is cut off is one more than the newlines of the code before the position. -/
def Loop.inQuoted (mask : Mask) (code : Text) (loop : Loop) (region : Region)
    (quote char : Char) (following : Text) : Loop :=
  match char, following with
  | '\\', next :: _ => loop.overEscape mask char next region
  | _, _ =>
    if char = quote then loop.goOn [char] 1 .code
    else if char = '\n' then
      let line := (code.take loop.position).count '\n' + 1
      { loop with cutOff := loop.cutOff ++ [(region, line)] }.goOn [char] 1 .code
    else loop.overContents mask char region

/-- A round in code. -/
def Loop.inCode (mask : Mask) (loop : Loop) (char : Char) (following : Text) : Loop :=
  if char = '/' && following.head? = some '/' then
    loop.goOn (if mask.comments then [' ', ' '] else ['/', '/']) 2 .lineComment
  else if char = '/' && following.head? = some '*' then
    loop.goOn (if mask.comments then [' ', ' '] else ['/', '*']) 2 .blockComment
  else if tripleQuote.isPrefixOf (char :: following) then loop.goOn tripleQuote 3 .textBlock
  else if char = '"' then loop.goOn [char] 1 .string
  else if char = '\'' then loop.goOn [char] 1 .char
  else if char = '\x7b' then
    { loop with depth := loop.depth + 1 }.goOn [char] 1 .code
  else if char = '\x7d' then
    { loop with depth := loop.depth - 1, lowest := min loop.lowest (loop.depth - 1) }.goOn
      [char] 1 .code
  else loop.goOn [char] 1 .code

/-- One round of the loop over `code`, at a character and before those that follow it. -/
def Loop.round (mask : Mask) (code : Text) (loop : Loop) (char : Char) (following : Text) :
    Loop :=
  match loop.region with
  | .lineComment => loop.inLineComment mask char
  | .blockComment => loop.inBlockComment mask char following
  | .textBlock => loop.inTextBlock mask char following
  | .string => loop.inQuoted mask code .string '"' char following
  | .char => loop.inQuoted mask code .char '\'' char following
  | .code => loop.inCode mask char following

/-- Runs the loop over the rest of `code` that starts at a position. A character before the
position of the loop has been dealt with in an earlier round. -/
def Loop.runFrom (mask : Mask) (code : Text) (loop : Loop) (position : Nat) : Text → Loop
  | [] => loop
  | char :: following =>
      if position < loop.position then loop.runFrom mask code (position + 1) following
      else (loop.round mask code char following).runFrom mask code (position + 1) following

/-- The masked text so far. -/
def Loop.masked (loop : Loop) : Text :=
  loop.pieces.reverse.flatten

/-! ### The outcome of a walk -/

/-- What a walk over a whole text finds out. -/
structure Scan where
  depth : Int
  lowest : Int
  openRegion : Region
  masked : Text
  cutOff : List (Region × Nat)
  deriving DecidableEq, Repr

/-- What has been found out when the loop is over. -/
def Loop.finish (loop : Loop) : Scan where
  depth := loop.depth
  lowest := loop.lowest
  openRegion := loop.region.atEnd
  masked := loop.masked
  cutOff := loop.cutOff

/-- Walks over a text and masks it. -/
def scan (mask : Mask) (text : Text) : Scan :=
  (Loop.start.runFrom mask text 0 text).finish

/-- The text with everything that the mask hides blanked out, position by position. -/
def masked (mask : Mask) (text : Text) : Text :=
  (scan mask text).masked

/-! ### Matching braces -/

/-- What a character adds to the depth of braces. -/
def weight (char : Char) : Int :=
  if char = '\x7b' then 1 else if char = '\x7d' then -1 else 0

/-- How far the brace is that brings the depth back to zero, starting at `depth`. -/
def closingBrace (depth : Int) : Text → Option Nat
  | [] => none
  | char :: text =>
      let depth := depth + weight char
      if char = '\x7d' && depth = 0 then some 0 else (closingBrace depth text).map (· + 1)

/-- The position of the brace that closes what is open from `position` on. -/
def matchingBrace (text : Text) (position : Nat) : Option Nat :=
  (closingBrace 0 (text.drop position)).map (· + position)

end BrowserPlan.Java
