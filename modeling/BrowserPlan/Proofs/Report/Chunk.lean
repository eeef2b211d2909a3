/-
This file proves what the cases of a section are in terms of its text.

The section is cut at the places where the number of a case starts and nowhere else. So no case is
lost and no two are merged: the cases have the numbers that occur in the section, in their order,
and each has the category that its chunk carries. Trimming the section or a chunk changes nothing,
as blanks make no number and no category.
-/

import BrowserPlan.Proofs.Report.Case
import BrowserPlan.Proofs.Report.Tally

namespace BrowserPlan.Report

/-! ### Where cases start -/

/-- The numbers of cases that occur in a text, in order. -/
def numbersIn (text : Text) : List Text :=
  text.tails.filterMap caseId?

theorem numbersIn_cons (char : Char) (text : Text) :
    numbersIn (char :: text) = (caseId? (char :: text)).toList ++ numbersIn text := by
  rw [numbersIn, List.tails_cons, List.filterMap_cons, ← numbersIn]
  cases caseId? (char :: text) <;> rfl

theorem findFirst_eq_none_of_numbersIn {text : Text} (noNumber : numbersIn text = []) :
    Text.findFirst caseId? text = none :=
  Text.findFirst_eq_none_iff.mpr fun part behind =>
    List.filterMap_eq_nil_iff.mp noNumber part ((List.mem_tails part text).mpr behind)

/-- What stands in front of a text, and the chunks of the text: each starts with the number of a
case and holds no other one. -/
structure IsCut (text front : Text) (chunks : List Text) : Prop where
  parts : text = front ++ chunks.flatten
  front : numbersIn front = []
  numbers : chunks.map caseId? = (numbersIn text).map some
  alone : ∀ chunk ∈ chunks, (numbersIn chunk).length = 1

/-- The start of another case changes nothing about the number in front of it. -/
theorem caseId?_of_append {front rest id : Text} (notEmpty : front ≠ [])
    (next : rest = [] ∨ ∃ behind, rest = Label.id.head :: behind)
    (read : caseId? (front ++ rest) = some id) : caseId? front = some id := by
  cases here : caseId? front with
  | some other => rw [← read, caseId?_append here]
  | none =>
    obtain rfl | ⟨behind, rfl⟩ := next
    · rw [← here, ← read, List.append_nil]
    · rw [← read, caseId?_append_head notEmpty here]

theorem exists_head_of_caseId? {text id : Text} (read : caseId? text = some id) :
    ∃ behind, text = Label.id.head :: behind := by
  obtain ⟨blanks, digits, rest, _, rfl⟩ := exists_caseMark read
  rw [caseMark, Label.text_id]
  exact ⟨_, rfl⟩

theorem IsCut.flatten {text front : Text} {chunks : List Text} (isCut : IsCut text front chunks) :
    chunks.flatten = [] ∨ ∃ behind, chunks.flatten = Label.id.head :: behind := by
  have numbers := isCut.numbers
  cases chunks with
  | nil => exact .inl rfl
  | cons chunk chunks =>
    cases ids : numbersIn text with
    | nil =>
      rw [ids] at numbers
      cases numbers
    | cons id ids' =>
      rw [ids] at numbers
      obtain ⟨behind, rfl⟩ := exists_head_of_caseId? (List.cons.inj numbers).1
      exact .inr ⟨_, rfl⟩

/-- Every chunk of a cut has a number. -/
theorem IsCut.exists_number {text front : Text} {chunks : List Text}
    (isCut : IsCut text front chunks) {chunk : Text} (member : chunk ∈ chunks) :
    ∃ id, caseId? chunk = some id := by
  have isNumber : caseId? chunk ∈ (numbersIn text).map some :=
    isCut.numbers ▸ List.mem_map_of_mem member
  obtain ⟨id, _, read⟩ := List.mem_map.mp isNumber
  exact ⟨id, read.symm⟩

theorem isCut_cutBefore {text front : Text} {chunks : List Text}
    (cut : Text.cutBefore (fun text => (caseId? text).isSome) text = front :: chunks) :
    IsCut text front chunks := by
  induction text generalizing front chunks with
  | nil =>
    cases cut
    exact ⟨rfl, rfl, rfl, fun _ member => nomatch member⟩
  | cons char text inductionHypothesis =>
    obtain ⟨piece, pieces, further⟩ :=
      Text.exists_cutBefore (fun text => (caseId? text).isSome) text
    -- The piece in front grows by one character, or is put behind the cut if a number opens here.
    have isCut := inductionHypothesis further
    rw [Text.cutBefore_cons further] at cut
    have whole : char :: text = (char :: piece) ++ pieces.flatten :=
      congrArg (char :: ·) isCut.parts
    cases read : caseId? (char :: text) with
    | none =>
      rw [read, Option.isSome_none, if_neg Bool.false_ne_true] at cut
      obtain ⟨rfl, rfl⟩ := List.cons.inj cut
      have noNumber : caseId? (char :: piece) = none := by
        cases here : caseId? (char :: piece) with
        | none => rfl
        | some id => rw [← read, whole, caseId?_append here]
      refine ⟨whole, ?_, ?_, isCut.alone⟩
      · rw [numbersIn_cons, noNumber, isCut.front]
        rfl
      · rw [numbersIn_cons, read]
        exact isCut.numbers
    | some id =>
      rw [read, Option.isSome_some, if_pos rfl] at cut
      obtain ⟨rfl, rfl⟩ := List.cons.inj cut
      have here : caseId? (char :: piece) = some id :=
        caseId?_of_append (List.cons_ne_nil _ _) isCut.flatten (whole ▸ read)
      refine ⟨whole, rfl, ?_, List.forall_mem_cons.mpr ⟨?_, isCut.alone⟩⟩
      · rw [numbersIn_cons, read, List.map_cons, here, isCut.numbers]
        rfl
      · rw [numbersIn_cons, here, isCut.front]
        rfl

/-! ### What a chunk carries -/

/-- The category that a chunk carries: the first one that stands in brackets behind its label. -/
def carried? (chunk : Text) : Option Category :=
  choice categoryLabel Category.word Category.all chunk

theorem carried?_trim (chunk : Text) : carried? (Text.trim chunk) = carried? chunk := by
  refine Text.findFirst_trim (Text.ignoresBlanks_after? (by decide) (by decide)
    (Text.ignoresBack_after?_dropBlanks (by decide) (by decide) ?_)) chunk
  intro text blanks blank
  have solid (category : Category) :
      (category.word ++ ("]" : Text)).any Text.isBlank = false := by
    cases category <;> decide
  simp only [Text.opensWith_append_blanks (solid _) blank]

/-- What the rules see of the case of a chunk. -/
def entryOf? (chunk : Text) : Option (CaseEntry Text) :=
  (caseId? chunk).map fun id => { id, category? := carried? chunk }

theorem entry_ofChunk?_trim {chunk id : Text} (read : caseId? chunk = some id) :
    (Case.ofChunk? (Text.trim chunk)).map Case.entry = entryOf? chunk := by
  have first : Text.findFirst caseId? (Text.trim chunk) = some id :=
    (Text.findFirst_trim ignoresBlanks_caseId? chunk).trans (Text.findFirst_of_read read)
  have category : choice categoryLabel Category.word Category.all (Text.trim chunk) =
      carried? chunk :=
    carried?_trim chunk
  rw [Case.ofChunk?, first, Option.map_some, Option.map_some, Case.entry, category, entryOf?, read,
    Option.map_some]

/-! ### The cases of a section -/

/-- Blanks around a part do not change its cases. -/
theorem casesOf_trim (part : Text) : casesOf (Text.trim part) = casesOf part := by
  rw [casesOf, chunks, Text.map_trim_cutBefore_trim ignoresBlanks_caseId?, casesOf, chunks]

/-- The entries of the cases are those of the chunks. -/
theorem entries_casesOf {part front : Text} {chunks : List Text}
    (cut : Text.cutBefore (fun text => (caseId? text).isSome) part = front :: chunks) :
    (casesOf part).map Case.entry = chunks.filterMap entryOf? := by
  have isCut := isCut_cutBefore cut
  rw [casesOf, Report.chunks, cut, List.map_cons,
    List.filterMap_cons_none (ofChunk?_trim_eq_none (findFirst_eq_none_of_numbersIn isCut.front)),
    List.map_filterMap, List.filterMap_map]
  refine List.filterMap_congr fun chunk member => ?_
  obtain ⟨id, read⟩ := isCut.exists_number member
  exact entry_ofChunk?_trim read

/-- The numbers of the cases are all that stand in the part. -/
theorem map_id_entries {part front : Text} {chunks : List Text} (isCut : IsCut part front chunks) :
    (chunks.filterMap entryOf?).map CaseEntry.id = numbersIn part := by
  have numbers : chunks.filterMap caseId? = numbersIn part :=
    calc
      chunks.filterMap caseId? = (chunks.map caseId?).filterMap id := by
        rw [List.filterMap_map, Function.id_comp]
      _ = ((numbersIn part).map some).filterMap id := congrArg _ isCut.numbers
      _ = (numbersIn part).filterMap some := List.filterMap_map
      _ = numbersIn part := List.filterMap_some
  rw [List.map_filterMap, ← numbers]
  refine List.filterMap_congr fun chunk _ => ?_
  rw [entryOf?, Option.map_map]
  exact Option.map_id'

/-- The cases of a category are counted by their chunks. -/
theorem countIn_entries {part front : Text} {chunks : List Text} (isCut : IsCut part front chunks)
    (category : Category) : countIn category (chunks.filterMap entryOf?) =
      chunks.countP fun chunk => carried? chunk = some category := by
  rw [countIn, List.countP_filterMap]
  refine List.countP_congr fun chunk member => ?_
  obtain ⟨id, read⟩ := isCut.exists_number member
  rw [entryOf?, read]
  rfl

end BrowserPlan.Report
