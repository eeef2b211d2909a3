/-
This file proves where a part of a text is first found.

What follows an occurrence does not move it. What stands in front of it moves it by its length, if
the part does not start there.
-/

import BrowserPlan.Proofs.Text.Cut

namespace BrowserPlan.Text

theorem find?_eq_none_iff {part text : Text} : find? part text = none ↔ ¬ part <:+: text := by
  rw [← holds_iff, holds, Bool.not_eq_true, Option.isSome_eq_false_iff, Option.isNone_iff_eq_none]

theorem find?_append_self (part rest : Text) : find? part (part ++ rest) = some 0 := by
  have opens : opensWith part (part ++ rest) = true :=
    opensWith_iff.mpr (List.prefix_append part rest)
  cases text : part ++ rest with
  | nil => rw [find?, ← text, opens, if_pos rfl]
  | cons char behind => rw [find?, ← text, opens, if_pos rfl]

theorem find?_of_after? {part text rest : Text} (read : after? part text = some rest) :
    find? part text = some 0 := by
  rw [after?_eq_some_iff.mp read, find?_append_self]

/-- The part stands where it is found. -/
theorem exists_of_find? {part text : Text} {position : Nat}
    (found : find? part text = some position) :
    ∃ front rest, text = front ++ (part ++ rest) ∧ front.length = position := by
  induction text generalizing position with
  | nil =>
    rw [find?] at found
    split_ifs at found with opens
    obtain ⟨rest, equal⟩ := opensWith_iff.mp opens
    exact ⟨[], rest, equal.symm, Option.some.inj found⟩
  | cons char text inductionHypothesis =>
    rw [find?] at found
    split_ifs at found with opens
    · obtain ⟨rest, equal⟩ := opensWith_iff.mp opens
      exact ⟨[], rest, equal.symm, Option.some.inj found⟩
    · obtain ⟨behind, further, rfl⟩ := Option.map_eq_some_iff.mp found
      obtain ⟨front, rest, rfl, rfl⟩ := inductionHypothesis further
      exact ⟨char :: front, rest, rfl, rfl⟩

theorem find?_append {part front : Text} {position : Nat}
    (found : find? part front = some position) (rest : Text) :
    find? part (front ++ rest) = some position := by
  induction front generalizing position with
  | nil =>
    rw [find?] at found
    split_ifs at found with opens
    obtain rfl := List.prefix_nil.mp (opensWith_iff.mp opens)
    rw [← found]
    exact find?_append_self [] rest
  | cons char front inductionHypothesis =>
    rw [find?] at found
    rw [List.cons_append, find?]
    split_ifs at found with opens
    · have longer : opensWith part (char :: (front ++ rest)) = true :=
        opensWith_iff.mpr ((opensWith_iff.mp opens).trans (List.prefix_append (char :: front) rest))
      rw [if_pos longer, found]
    · obtain ⟨behind, further, rfl⟩ := Option.map_eq_some_iff.mp found
      have short : part.length ≤ (char :: front).length := by
        obtain ⟨passed, more, rfl, _⟩ := exists_of_find? further
        simp only [List.length_cons, List.length_append]
        omega
      have refused : ¬ opensWith part (char :: (front ++ rest)) = true := fun longer =>
        opens (opensWith_iff.mpr (List.prefix_of_prefix_length_le (opensWith_iff.mp longer)
          (List.prefix_append (char :: front) rest) short))
      rw [if_neg refused, inductionHypothesis further, Option.map_some]

/-- A front apart from a part shifts where it is found. -/
theorem find?_append_of_isApart {part front : Text} (apart : isApart part front = true)
    (rest : Text) : find? part (front ++ rest) = (find? part rest).map (· + front.length) := by
  induction front with
  | nil => exact Option.map_id'.symm
  | cons char front inductionHypothesis =>
    have refused : ¬ opensWith part (char :: (front ++ rest)) = true := fun opens =>
      not_prefix_append_of_isApart apart rest (opensWith_iff.mp opens)
    rw [List.cons_append, find?, if_neg refused, inductionHypothesis (isApart_cons.mp apart).2.2,
      Option.map_map]
    rfl

/-! ### Reading up to a part and at a part -/

theorem find?_cons_eq_succ_iff {part text : Text} {char : Char} {position : Nat} :
    find? part (char :: text) = some (position + 1) ↔
      ¬ part <+: char :: text ∧ find? part text = some position := by
  rw [find?, ← opensWith_iff]
  split_ifs with opens
  · simp [opens]
  · simp [opens]

/-- A text is passed up to the first place of a part. -/
theorem upTo_eq_some_iff {part text passed rest : Text} :
    upTo (after? part) text = some (passed, rest) ↔
      text = passed ++ (part ++ rest) ∧ find? part text = some passed.length := by
  constructor
  · intro read
    induction text generalizing passed with
    | nil =>
      obtain ⟨behind, here, equal⟩ := Option.map_eq_some_iff.mp read
      cases equal
      have parts := after?_eq_some_iff.mp here
      exact ⟨parts, find?_of_after? here⟩
    | cons char text inductionHypothesis =>
      rw [upTo] at read
      cases here : after? part (char :: text) with
      | some behind =>
        rw [here] at read
        cases read
        have parts := after?_eq_some_iff.mp here
        exact ⟨parts, find?_of_after? here⟩
      | none =>
        rw [here] at read
        obtain ⟨⟨later, behind⟩, further, equal⟩ := Option.map_eq_some_iff.mp read
        cases equal
        obtain ⟨parts, found⟩ := inductionHypothesis further
        have refused : ¬ part <+: char :: text := by
          rw [← opensWith_iff, opensWith, here]
          exact Bool.false_ne_true
        exact ⟨congrArg (char :: ·) parts, find?_cons_eq_succ_iff.mpr ⟨refused, found⟩⟩
  · rintro ⟨rfl, found⟩
    induction passed with
    | nil => exact upTo_of_read (after?_append part rest)
    | cons char passed inductionHypothesis =>
      rw [List.cons_append, List.length_cons, find?_cons_eq_succ_iff] at found
      rw [List.cons_append, upTo, after?_eq_none found.1, inductionHypothesis found.2]
      rfl

/-- What is read only at a part is first read where the part is found, if it can be read there. -/
theorem findFirst_of_find? {Value : Type} {part front rest : Text} {read : Text → Option Value}
    (starts : ∀ text, ¬ part <+: text → read text = none)
    (found : find? part (front ++ rest) = some front.length) :
    findFirst read (front ++ rest) = findFirst read rest := by
  induction front with
  | nil => rfl
  | cons char front inductionHypothesis =>
    rw [List.cons_append, List.length_cons, find?_cons_eq_succ_iff] at found
    rw [List.cons_append, findFirst, starts _ found.1, Option.none_or, inductionHypothesis found.2]

end BrowserPlan.Text
