/-
This file proves what trimming does.

Leading and trailing blanks are dropped independently of each other. A character that is no blank
stops both, so that a text between two such characters stays as it is.
-/

import BrowserPlan.Text.Digit
import Mathlib.Data.List.DropRight

namespace BrowserPlan.Text

theorem isBlank_of_isDigit {char : Char} (digit : isDigit char = true) : isBlank char = false := by
  have table : ∀ first ∈ zeros, ∀ value < 10, isBlank (Char.ofNat (first + value)) = false := by
    decide +kernel
  obtain ⟨value, found⟩ := Option.isSome_iff_exists.mp digit
  obtain ⟨first, isFound, _⟩ := Option.map_eq_some_iff.mp found
  have range := List.find?_some isFound
  rw [Bool.and_eq_true, decide_eq_true_eq, decide_eq_true_eq] at range
  have plain := table first (List.mem_of_find?_eq_some isFound) (char.toNat - first) (by omega)
  rwa [Nat.add_sub_cancel' range.1, Char.ofNat_toNat] at plain

/-! ### Blanks in front -/

theorem dropBlanks_cons {char : Char} (notBlank : isBlank char = false) (text : Text) :
    dropBlanks (char :: text) = char :: text :=
  List.dropWhile_cons_of_neg (Bool.eq_false_iff.mp notBlank)

theorem dropBlanks_cons_of_isBlank {char : Char} (blank : isBlank char = true) (text : Text) :
    dropBlanks (char :: text) = dropBlanks text :=
  List.dropWhile_cons_of_pos blank

theorem dropBlanks_append {front : Text} (blank : isAllBlank front = true) (rest : Text) :
    dropBlanks (front ++ rest) = dropBlanks rest :=
  List.dropWhile_append_of_pos (List.all_eq_true.mp blank)

theorem dropBlanks_dropBlanks (text : Text) : dropBlanks (dropBlanks text) = dropBlanks text :=
  List.dropWhile_idempotent isBlank text

theorem dropBlanks_isSuffix (text : Text) : dropBlanks text <:+ text :=
  List.dropWhile_suffix isBlank

/-! ### Blanks behind -/

theorem trimRight_concat {char : Char} (notBlank : isBlank char = false) (text : Text) :
    trimRight (text ++ [char]) = text ++ [char] := by
  rw [trimRight, List.reverse_append, List.reverse_singleton, List.singleton_append,
    List.dropWhile_cons_of_neg (Bool.eq_false_iff.mp notBlank), List.reverse_cons,
    List.reverse_reverse]

theorem dropBlanks_eq_nil_iff {text : Text} :
    dropBlanks text = [] ↔ isAllBlank text = true := by
  rw [dropBlanks, List.dropWhile_eq_nil_iff, isAllBlank, List.all_eq_true]

theorem trimRight_eq_nil_iff {text : Text} :
    trimRight text = [] ↔ isAllBlank text = true := by
  rw [trimRight, List.reverse_eq_nil_iff, ← dropBlanks, dropBlanks_eq_nil_iff, isAllBlank,
    List.all_reverse, isAllBlank]

/-- A blank is trimmed on the right only if nothing but blanks follows. -/
theorem trimRight_cons (char : Char) (text : Text) :
    trimRight (char :: text) =
      if isAllBlank text = true ∧ isBlank char = true then [] else char :: trimRight text := by
  have blank : (text.reverse.dropWhile isBlank).isEmpty = true ↔ isAllBlank text = true := by
    rw [List.isEmpty_iff, ← trimRight_eq_nil_iff, trimRight, List.reverse_eq_nil_iff]
  rw [trimRight, List.reverse_cons, List.dropWhile_append]
  by_cases allBlank : isAllBlank text = true
  · rw [if_pos (blank.mpr allBlank), trimRight_eq_nil_iff.mpr allBlank]
    by_cases isBlank : isBlank char = true
    · rw [List.dropWhile_cons_of_pos isBlank, if_pos ⟨allBlank, isBlank⟩]
      rfl
    · rw [List.dropWhile_cons_of_neg isBlank, if_neg fun both => isBlank both.2]
      rfl
  · rw [if_neg (mt blank.mp allBlank), if_neg fun both => allBlank both.1, List.reverse_append]
    rfl

theorem trimRight_isPrefix (text : Text) : trimRight text <+: text := by
  have dropped := List.reverse_prefix.mpr (List.dropWhile_suffix isBlank (l := text.reverse))
  rwa [List.reverse_reverse] at dropped

theorem trimRight_append_of_blank {back : Text} (blank : isAllBlank back = true) (front : Text) :
    trimRight (front ++ back) = trimRight front := by
  rw [trimRight, List.reverse_append, List.dropWhile_append_of_pos, ← trimRight]
  exact fun char member => List.all_eq_true.mp blank char (List.mem_reverse.mp member)

theorem trimRight_trimRight (text : Text) : trimRight (trimRight text) = trimRight text := by
  rw [trimRight, trimRight, List.reverse_reverse]
  exact congrArg List.reverse (dropBlanks_dropBlanks text.reverse)

/-- Nothing is trimmed in front of a character that is no blank. -/
theorem trimRight_append {char : Char} (notBlank : isBlank char = false) (front back : Text) :
    trimRight (front ++ char :: back) = front ++ char :: trimRight back := by
  induction front with
  | nil =>
    rw [List.nil_append, trimRight_cons, if_neg fun both => Bool.eq_false_iff.mp notBlank both.2]
    rfl
  | cons first front inductionHypothesis =>
    have notAllBlank : ¬ isAllBlank (front ++ char :: back) = true := by
      intro all
      rw [isAllBlank, List.all_append, List.all_cons, notBlank] at all
      simp at all
    rw [List.cons_append, trimRight_cons, if_neg fun both => notAllBlank both.1,
      inductionHypothesis]
    rfl

/-! ### Both sides -/

/-- It does not matter which end is trimmed first. -/
theorem dropBlanks_trimRight (text : Text) :
    dropBlanks (trimRight text) = trimRight (dropBlanks text) := by
  induction text with
  | nil => rfl
  | cons char text inductionHypothesis =>
    rw [trimRight_cons]
    by_cases blank : isBlank char = true
    · rw [dropBlanks_cons_of_isBlank blank, ← inductionHypothesis]
      split_ifs with all
      · rw [trimRight_eq_nil_iff.mpr all.1]
      · rw [dropBlanks_cons_of_isBlank blank]
    · have notBlank := Bool.eq_false_iff.mpr blank
      rw [if_neg fun both => blank both.2, dropBlanks_cons notBlank, dropBlanks_cons notBlank,
        trimRight_cons, if_neg fun both => blank both.2]

theorem trim_trimRight (text : Text) : trim (trimRight text) = trim text := by
  rw [trim, dropBlanks_trimRight, trim, trimRight_trimRight]

theorem trim_dropBlanks (text : Text) : trim (dropBlanks text) = trim text := by
  rw [trim, dropBlanks_dropBlanks, trim]

theorem trim_trim (text : Text) : trim (trim text) = trim text :=
  (trim_trimRight (dropBlanks text)).trans (trim_dropBlanks text)

/-- Trimming takes away from both ends and nowhere else. -/
theorem trim_isInfix (text : Text) : trim text <:+: text :=
  (trimRight_isPrefix _).isInfix.trans (dropBlanks_isSuffix text).isInfix

theorem trim_cons_of_isBlank {char : Char} (blank : isBlank char = true) (text : Text) :
    trim (char :: text) = trim text := by
  rw [trim, dropBlanks_cons_of_isBlank blank]
  rfl

theorem trim_append_of_blank {back : Text} (blank : isAllBlank back = true) (front : Text) :
    trim (front ++ back) = trim front := by
  rw [← trim_trimRight, trimRight_append_of_blank blank, trim_trimRight]

theorem trim_eq_nil_iff {text : Text} : trim text = [] ↔ isAllBlank text = true := by
  rw [trim, trimRight_eq_nil_iff, ← dropBlanks_eq_nil_iff, dropBlanks_dropBlanks,
    dropBlanks_eq_nil_iff]

/-- A text that trimming leaves as it is has no blanks on either side. -/
theorem dropBlanks_of_trim_eq {text : Text} (trimmed : trim text = text) :
    dropBlanks text = text := by
  have shorter : (trim text).length ≤ (dropBlanks text).length :=
    (trimRight_isPrefix (dropBlanks text)).length_le
  rw [trimmed] at shorter
  exact (dropBlanks_isSuffix text).eq_of_length_le shorter

theorem trimRight_of_trim_eq {text : Text} (trimmed : trim text = text) :
    trimRight text = text := by
  rw [trim, dropBlanks_of_trim_eq trimmed] at trimmed
  exact trimmed

/-- A trimmed text begins with ink. -/
theorem exists_cons_of_trim_eq {text : Text} (trimmed : trim text = text) (notEmpty : text ≠ []) :
    ∃ first rest, text = first :: rest ∧ isBlank first = false := by
  obtain ⟨first, rest, rfl⟩ := List.exists_cons_of_ne_nil notEmpty
  refine ⟨first, rest, rfl, Bool.eq_false_iff.mpr fun blank => ?_⟩
  have dropped := dropBlanks_of_trim_eq trimmed
  rw [dropBlanks_cons_of_isBlank blank] at dropped
  have shorter := (dropBlanks_isSuffix rest).length_le
  rw [dropped, List.length_cons] at shorter
  omega

theorem exists_concat_of_trim_eq {text : Text} (trimmed : trim text = text)
    (notEmpty : text ≠ []) : ∃ front last, text = front ++ [last] ∧ isBlank last = false := by
  refine ⟨text.dropLast, text.getLast notEmpty, (List.dropLast_append_getLast notEmpty).symm,
    Bool.eq_false_iff.mpr fun blank => ?_⟩
  have kept := trimRight_of_trim_eq trimmed
  rw [← List.dropLast_append_getLast notEmpty, trimRight_append_of_blank] at kept
  · have shorter := (trimRight_isPrefix text.dropLast).length_le
    rw [kept, List.length_append, List.length_singleton] at shorter
    omega
  · exact List.all_eq_true.mpr fun char member => by rwa [List.mem_singleton.mp member]

end BrowserPlan.Text
