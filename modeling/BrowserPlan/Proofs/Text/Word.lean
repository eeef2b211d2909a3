/-
This file proves how words are read and how known words are counted.

A word ends at a blank, so it is read to its end, and the blanks around a text neither make a word
nor take one away.
-/

import BrowserPlan.Proofs.Text.Search
import BrowserPlan.Proofs.Text.Trimmed
import BrowserPlan.Text.Word
import Mathlib.Data.List.TakeWhile

namespace BrowserPlan.Text

/-! ### Words and blanks -/

/-- The blanks outside of ASCII lie between the runs of letters and numbers. -/
theorem inRuns_wordRuns_of_blank :
    ∀ code ∈ [0x85, 0xa0, 0x1680, 0x2000, 0x2001, 0x2002, 0x2003, 0x2004, 0x2005, 0x2006, 0x2007,
      0x2008, 0x2009, 0x200a, 0x2028, 0x2029, 0x202f, 0x205f, 0x3000],
      inRuns wordRuns code = false := by
  simp only [inRuns, ← Array.any_toList]
  decide +kernel

/-- No blank is part of a word. -/
theorem isWord_eq_false_of_isBlank {char : Char} (blank : isBlank char = true) :
    isWord char = false := by
  simp only [isBlank, Bool.or_eq_true, Bool.and_eq_true, decide_eq_true_eq, beq_iff_eq] at blank
  by_cases ascii : char.toNat < 128
  · have codes : ∀ code ∈ [9, 10, 11, 12, 13, 28, 29, 30, 31, 32],
        isWord (Char.ofNat code) = false := by
      decide
    rw [← Char.ofNat_toNat char]
    refine codes char.toNat ?_
    simp only [List.mem_cons, List.not_mem_nil, or_false]
    omega
  · rw [isWord, if_neg ascii]
    refine inRuns_wordRuns_of_blank char.toNat ?_
    simp only [List.mem_cons, List.not_mem_nil, or_false]
    omega

theorem isBlank_eq_false_of_isWord {char : Char} (word : isWord char = true) :
    isBlank char = false := by
  refine Bool.eq_false_iff.mpr fun blank => ?_
  rw [isWord_eq_false_of_isBlank blank] at word
  cases word

/-! ### Reading a word -/

/-- A word is read to its end. -/
theorem readWord?_append {word : Text} (notEmpty : word ≠ [])
    (isWord : ∀ char ∈ word, isWord char = true) {rest : Text} (ends : atWordEnd rest = true) :
    readWord? (word ++ rest) = some (word, rest) := by
  have stops : rest.takeWhile Text.isWord = [] ∧ rest.dropWhile Text.isWord = rest := by
    cases rest with
    | nil => exact ⟨rfl, rfl⟩
    | cons char rest =>
      have notWord : ¬ Text.isWord char = true := by simpa [atWordEnd] using ends
      exact ⟨List.takeWhile_cons_of_neg notWord, List.dropWhile_cons_of_neg notWord⟩
  rw [readWord?, List.takeWhile_append_of_pos isWord, List.dropWhile_append_of_pos isWord,
    stops.1, stops.2, List.append_nil]
  cases word with
  | nil => exact absurd rfl notEmpty
  | cons char word => rfl

theorem ne_nil_of_readWord? {text word rest : Text}
    (read : readWord? text = some (word, rest)) : word ≠ [] := by
  unfold readWord? at read
  split at read
  · cases read
  · rename_i notEmpty
    cases read
    exact notEmpty

/-- What is read as a word is one, at the beginning. -/
theorem eq_append_of_readWord? {text word rest : Text}
    (read : readWord? text = some (word, rest)) :
    (∀ char ∈ word, isWord char = true) ∧ text = word ++ rest := by
  unfold readWord? at read
  split at read
  · cases read
  · rename_i equal _
    cases read
    rw [List.takeWhile_append_dropWhile]
    exact ⟨fun char member => List.mem_takeWhile_imp member, rfl⟩

/-! ### Counting a known word -/

theorem atWordEnd_append_blanks {blanks : Text} (blank : isAllBlank blanks = true) (rest : Text) :
    atWordEnd (rest ++ blanks) = atWordEnd rest := by
  cases rest with
  | cons char rest => rfl
  | nil =>
    cases blanks with
    | nil => rfl
    | cons char blanks =>
      rw [isAllBlank, List.all_cons, Bool.and_eq_true] at blank
      exact congrArg (!·) (isWord_eq_false_of_isBlank blank.1)

section Counting

variable {word : Text} (solid : word.any isBlank = false)

include solid

theorem keyword?_append_blanks {blanks : Text} (blank : isAllBlank blanks = true) (text : Text) :
    keyword? word (text ++ blanks) = (keyword? word text).map (· ++ blanks) := by
  rw [keyword?, after?_append_blanks solid blank, keyword?]
  cases after? word text with
  | none => rfl
  | some rest =>
    rw [Option.map_some, Option.filter_some, Option.filter_some, atWordEnd_append_blanks blank]
    split_ifs <;> rfl

theorem keyword?_of_isBlank (notEmpty : word ≠ []) {char : Char} (blank : isBlank char = true)
    (text : Text) : keyword? word (char :: text) = none := by
  rw [keyword?, after?_eq_none_of_isBlank solid notEmpty blank, Option.filter_none]

theorem countAll_dropBlanks (notEmpty : word ≠ []) (text : Text) :
    countAll (keyword? word) (dropBlanks text) = countAll (keyword? word) text := by
  induction text with
  | nil => rfl
  | cons char text inductionHypothesis =>
    by_cases blank : isBlank char = true
    · have miss : (keyword? word (char :: text)).map (Prod.mk ()) = none := by
        rw [keyword?_of_isBlank solid notEmpty blank, Option.map_none]
      rw [dropBlanks_cons_of_isBlank blank, inductionHypothesis, countAll, countAll, findAll,
        findAll, findFrom_miss miss]
      have same := congrArg List.length (map_snd_findFrom
        (fun text => (keyword? word text).map (Prod.mk ())) none (some char) 0 (0 + 1) 0 text)
      rwa [List.length_map, List.length_map] at same
    · rw [dropBlanks_cons (Bool.eq_false_iff.mpr blank)]

/-- Nothing is found among blanks. -/
theorem findFrom_keyword?_blanks (notEmpty : word ≠ []) {blanks : Text}
    (blank : isAllBlank blanks = true) (before : Option Char) (position skipped : Nat) :
    findFrom (fun _ text => (keyword? word text).map (Prod.mk ())) before position skipped blanks =
      [] := by
  induction blanks generalizing before position skipped with
  | nil => rfl
  | cons char blanks inductionHypothesis =>
    rw [isAllBlank, List.all_cons, Bool.and_eq_true] at blank
    cases skipped with
    | succ skipped => exact inductionHypothesis blank.2 _ _ _
    | zero =>
      have miss : (keyword? word (char :: blanks)).map (Prod.mk ()) = none := by
        rw [keyword?_of_isBlank solid notEmpty blank.1, Option.map_none]
      rw [findFrom_miss miss]
      exact inductionHypothesis blank.2 _ _ _

theorem length_findFrom_append_blanks (notEmpty : word ≠ []) {blanks : Text}
    (blank : isAllBlank blanks = true) (before : Option Char) (position skipped : Nat)
    (text : Text) :
    (findFrom (fun _ text => (keyword? word text).map (Prod.mk ())) before position skipped
        (text ++ blanks)).length =
      (findFrom (fun _ text => (keyword? word text).map (Prod.mk ())) before position skipped
        text).length := by
  induction text generalizing before position skipped with
  | nil =>
    rw [List.nil_append, findFrom_keyword?_blanks solid notEmpty blank]
    rfl
  | cons char text inductionHypothesis =>
    cases skipped with
    | succ skipped => exact inductionHypothesis _ _ _
    | zero =>
      have here := keyword?_append_blanks solid blank (char :: text)
      rw [List.cons_append] at here ⊢
      rw [findFrom, findFrom, here]
      cases keyword? word (char :: text) with
      | none => exact inductionHypothesis _ _ _
      | some rest =>
        have skips : (text ++ blanks).length - (rest ++ blanks).length =
            text.length - rest.length := by
          rw [List.length_append, List.length_append, Nat.add_sub_add_right]
        simp only [Option.map_some, skips, List.length_cons, inductionHypothesis]

/-- A word is found as often in a trimmed text. -/
theorem countAll_keyword?_trim (notEmpty : word ≠ []) (text : Text) :
    countAll (keyword? word) (trim text) = countAll (keyword? word) text := by
  obtain ⟨blanks, blank, equal⟩ := exists_trimRight_append (dropBlanks text)
  calc
    countAll (keyword? word) (trim text) = countAll (keyword? word) (trim text ++ blanks) :=
      (length_findFrom_append_blanks solid notEmpty blank none 0 0 _).symm
    _ = countAll (keyword? word) (dropBlanks text) := congrArg _ equal.symm
    _ = countAll (keyword? word) text := countAll_dropBlanks solid notEmpty text

end Counting

end BrowserPlan.Text
