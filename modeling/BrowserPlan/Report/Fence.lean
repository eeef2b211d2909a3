/-
This file finds the Java text that a model wrote between fences.

A block starts at three backquotes with the word `java` right behind them and ends at the next
three backquotes, wherever they stand; blanks at either end of it do not count.
-/

import BrowserPlan.Text.Search

namespace BrowserPlan.Report

open Text (Reader)

/-- Three backquotes. -/
def fence : Text :=
  "```"

/-- Reads a block with its fences: what stands between them, trimmed. -/
def readBlock : Reader Text := fun text => do
  let text ← Text.after? (fence ++ "java") text
  let (inside, rest) ← Text.upTo (Text.after? fence) text
  return (Text.trim inside, rest)

/-- The blocks of a text, in order. -/
def blocks (text : Text) : List Text :=
  (Text.findAll (fun _ => readBlock) text).map Prod.snd

/-- The blocks of a text with an empty line between neighbours, if there are any. -/
def joinedBlocks? (text : Text) : Option Text :=
  match blocks text with
  | [] => none
  | found => some (Text.join "\n\n" found)

end BrowserPlan.Report
