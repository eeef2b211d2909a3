/-
This file proves which block of a section is read as its implementation.

It is the block at the first opening fence, up to the next fence. If no fence follows the first
opening one, there is none behind it at which a block could start, so the search need not be
followed any further.
-/

import BrowserPlan.Proofs.Text.Occurrence
import BrowserPlan.Proofs.Text.Word
import BrowserPlan.Report.Section

namespace BrowserPlan.Report

/-! ### The first block -/

/-- What opens a block. -/
def opening : Text :=
  fence ++ "java"

/-- The first block of a text. -/
def firstBlock? (text : Text) : Option Text :=
  Text.findFirst (fun text => (readBlock text).map Prod.fst) text

theorem head?_map_findFrom {Value : Type} {read : Text.Reader Value} (nothing : read [] = none)
    (before : Option Char) (position : Nat) (text : Text) :
    ((Text.findFrom (fun _ => read) before position 0 text).map Prod.snd).head? =
      Text.findFirst (fun text => (read text).map Prod.fst) text := by
  induction text generalizing before position with
  | nil => rw [Text.findFirst, nothing]; rfl
  | cons char text inductionHypothesis =>
    rw [Text.findFrom, Text.findFirst]
    cases read (char :: text) with
    | none => exact inductionHypothesis _ _
    | some found => rfl

/-- The first of the blocks is the one that is looked for first. -/
theorem head?_blocks (text : Text) : (blocks text).head? = firstBlock? text :=
  head?_map_findFrom rfl none 0 text

theorem ofSection_eq_ok_iff {part : Text} {implementation : Implementation} :
    Implementation.ofSection part = .ok implementation ↔
      firstBlock? part = some implementation.code ∧
        implementation.testCount = Java.testCount implementation.code := by
  rw [← head?_blocks, Implementation.ofSection]
  cases blocks part with
  | nil => simp
  | cons code rest =>
    simp only [List.head?_cons, Option.some.injEq, Except.ok.injEq]
    constructor
    · rintro rfl
      exact ⟨rfl, rfl⟩
    · rintro ⟨rfl, count⟩
      rw [← count]

/-! ### Where it stands -/

/-- The first block of a text is at the first opening fence and ends at the next fence. -/
structure IsFirstBlock (text front inside rest : Text) : Prop where
  parts : text = front ++ (opening ++ (inside ++ (fence ++ rest)))
  opens : Text.find? opening text = some front.length
  closes : Text.find? fence (inside ++ (fence ++ rest)) = some inside.length

theorem fst_readBlock (text : Text) :
    (readBlock text).map Prod.fst = (Text.after? opening text).bind fun text =>
      (Text.upTo (Text.after? fence) text).map fun found => Text.trim found.1 := by
  rw [readBlock, opening]
  cases Text.after? (fence ++ "java") text with
  | none => rfl
  | some behind =>
    dsimp only [Option.bind_eq_bind, Option.bind_some]
    cases Text.upTo (Text.after? fence) behind <;> rfl

/-- The first block is found and trimmed. -/
theorem firstBlock?_of_isFirstBlock {text front inside rest : Text}
    (first : IsFirstBlock text front inside rest) : firstBlock? text = some (Text.trim inside) := by
  have starts (text : Text) (other : ¬ opening <+: text) :
      (readBlock text).map Prod.fst = none := by
    rw [fst_readBlock, Text.after?_eq_none other, Option.bind_none]
  have inside : Text.upTo (Text.after? fence) (inside ++ (fence ++ rest)) = some (inside, rest) :=
    Text.upTo_eq_some_iff.mpr ⟨rfl, first.closes⟩
  have opens := first.opens
  rw [first.parts] at opens
  rw [firstBlock?, first.parts, Text.findFirst_of_find? starts opens]
  refine Text.findFirst_of_read ?_
  rw [fst_readBlock, Text.after?_append, Option.bind_some, inside, Option.map_some]

/-- If there is no block at an opening, no fence follows it. -/
theorem not_infix_of_fst_readBlock {char : Char} {text : Text} (opens : opening <+: char :: text)
    (noBlock : (readBlock (char :: text)).map Prod.fst = none) : ¬ fence <:+: text := by
  obtain ⟨behind, equal⟩ := opens
  have parts : text = "``java" ++ behind := (List.cons.inj equal).2.symm
  rw [fst_readBlock, ← equal, Text.after?_append, Option.bind_some, Option.map_eq_none_iff]
    at noBlock
  rw [parts]
  refine Text.not_infix_append (by decide) ?_
  rw [← Text.find?_eq_none_iff]
  cases found : Text.find? fence behind with
  | none => rfl
  | some position =>
    obtain ⟨inside, rest, rfl, rfl⟩ := Text.exists_of_find? found
    rw [Text.upTo_eq_some_iff.mpr ⟨rfl, found⟩] at noBlock
    cases noBlock

theorem exists_isFirstBlock {text code : Text} (found : firstBlock? text = some code) :
    ∃ front inside rest, code = Text.trim inside ∧ IsFirstBlock text front inside rest := by
  induction text with
  | nil => cases found
  | cons char text inductionHypothesis =>
    rw [firstBlock?, Text.findFirst, Option.or_eq_some_iff] at found
    obtain here | ⟨noBlock, later⟩ := found
    · rw [fst_readBlock] at here
      obtain ⟨behind, opens, read⟩ := Option.bind_eq_some_iff.mp here
      obtain ⟨⟨inside, rest⟩, upTo, equal⟩ := Option.map_eq_some_iff.mp read
      obtain ⟨rfl, closes⟩ := Text.upTo_eq_some_iff.mp upTo
      rw [Text.after?_eq_some_iff] at opens
      rw [opens]
      exact ⟨[], inside, rest, equal.symm, rfl, Text.find?_append_self _ _, closes⟩
    · obtain ⟨front, inside, rest, trimmed, first⟩ := inductionHypothesis later
      have held : fence <:+: text := by
        refine ⟨front ++ (opening ++ inside), rest, ?_⟩
        rw [first.parts]
        simp only [List.append_assoc]
      have notHere : ¬ opening <+: char :: text := fun opens =>
        not_infix_of_fst_readBlock opens noBlock held
      exact ⟨char :: front, inside, rest, trimmed, congrArg (char :: ·) first.parts,
        Text.find?_cons_eq_succ_iff.mpr ⟨notHere, first.opens⟩, first.closes⟩

/-! ### The first block of a trimmed text -/

theorem firstBlock?_trim (text : Text) : firstBlock? (Text.trim text) = firstBlock? text := by
  have reader : (fun text => (readBlock text).map Prod.fst) = fun text =>
      (Text.after? opening text).bind fun text =>
        (Text.upTo (Text.after? fence) text).map fun found => Text.trim found.1 :=
    funext fst_readBlock
  rw [firstBlock?, firstBlock?, reader]
  refine Text.findFirst_trim (Text.ignoresBlanks_after? (by decide) (by decide) ?_) text
  intro behind blanks blank
  dsimp only
  rw [Text.upTo_append_blanks (by decide) blank (by decide), Option.map_map]
  rfl

theorem testCount_trim (code : Text) : Java.testCount (Text.trim code) = Java.testCount code :=
  Text.countAll_keyword?_trim (by decide) (by decide) code

end BrowserPlan.Report
