/-
This file proves which brace is found as the match: the first closing brace up to which as many
braces are closed as were opened, wherever the search starts.

The search does not ask that anything is open where it starts. The depth may fall below zero
first, and then it must rise above it again before a closing brace can bring it to zero. Where the
search does start at a brace that shows in a masked text, what it spans is a text of its own: the
walk over it starts afresh at the first brace, sees nothing behind the last one and finds it
balanced.
-/

import BrowserPlan.Proofs.Java.Segment
import BrowserPlan.Proofs.Java.Token
import Mathlib.Order.Bounds.Basic

namespace BrowserPlan.Java

/-! ### Where what is open gets closed -/

/-- Starting at `depth`, all that is open is closed by the brace at the given distance. -/
def ClosesAfter (depth : Int) (text : Text) (distance : Nat) : Prop :=
  text[distance]? = some '\x7d' ∧ depth + balance (text.take (distance + 1)) = 0

theorem not_closesAfter_nil (depth : Int) (distance : Nat) : ¬ ClosesAfter depth [] distance :=
  fun closes => nomatch closes.1

theorem closesAfter_zero_iff {depth : Int} {char : Char} {text : Text} :
    ClosesAfter depth (char :: text) 0 ↔ (char = '\x7d' && depth + weight char = 0) = true := by
  rw [ClosesAfter, Bool.and_eq_true, decide_eq_true_eq, decide_eq_true_eq, List.take_succ_cons,
    balance_cons, List.take_zero, balance_nil, Int.add_zero, List.getElem?_cons_zero,
    Option.some.injEq]

theorem closesAfter_succ_iff {depth : Int} {char : Char} {text : Text} {distance : Nat} :
    ClosesAfter depth (char :: text) (distance + 1) ↔
      ClosesAfter (depth + weight char) text distance := by
  rw [ClosesAfter, ClosesAfter, List.take_succ_cons, balance_cons, List.getElem?_cons_succ,
    Int.add_assoc]

/-- Nothing is found only where nothing closes what is open. -/
theorem closingBrace_eq_none_iff {depth : Int} {text : Text} :
    closingBrace depth text = none ↔ ∀ distance, ¬ ClosesAfter depth text distance := by
  induction text generalizing depth with
  | nil => exact iff_of_true rfl (not_closesAfter_nil depth)
  | cons char text inductionHypothesis =>
    rw [closingBrace_cons]
    split_ifs with closing
    · exact iff_of_false nofun fun never => never 0 (closesAfter_zero_iff.mpr closing)
    · rw [Option.map_eq_none_iff, inductionHypothesis]
      constructor
      · intro never distance closes
        cases distance with
        | zero => exact closing (closesAfter_zero_iff.mp closes)
        | succ distance => exact never distance (closesAfter_succ_iff.mp closes)
      · exact fun never distance closes => never (distance + 1) (closesAfter_succ_iff.mpr closes)

/-- What is found is the first place that closes what is open. -/
theorem isLeast_of_closingBrace {depth : Int} {text : Text} {distance : Nat}
    (found : closingBrace depth text = some distance) :
    IsLeast {place | ClosesAfter depth text place} distance := by
  induction text generalizing depth distance with
  | nil => cases found
  | cons char text inductionHypothesis =>
    rw [closingBrace_cons] at found
    split_ifs at found with closing
    · obtain rfl := Option.some.inj found
      exact ⟨closesAfter_zero_iff.mpr closing, fun place _ => Nat.zero_le place⟩
    · obtain ⟨further, foundFurther, rfl⟩ := Option.map_eq_some_iff.mp found
      obtain ⟨closes, first⟩ := inductionHypothesis foundFurther
      refine ⟨closesAfter_succ_iff.mpr closes, fun place closesThere => ?_⟩
      cases place with
      | zero => exact absurd (closesAfter_zero_iff.mp closesThere) closing
      | succ place => exact Nat.succ_le_succ (first (closesAfter_succ_iff.mp closesThere))

/-- The brace that is found is the first that closes, counted from the depth so far. -/
theorem closingBrace_eq_some_iff {depth : Int} {text : Text} {distance : Nat} :
    closingBrace depth text = some distance ↔
      IsLeast {place | ClosesAfter depth text place} distance := by
  refine ⟨isLeast_of_closingBrace, fun least => ?_⟩
  cases found : closingBrace depth text with
  | none => exact absurd least.1 (closingBrace_eq_none_iff.mp found distance)
  | some other => rw [(isLeast_of_closingBrace found).unique least]

/-! ### Positions -/

/-- The part of a text from one position to another, with the characters at both. -/
def span (text : Text) (first last : Nat) : Text :=
  (text.drop first).take (last + 1 - first)

/-- A brace at the position closes what is open from the start on: up to it as many braces are
closed as are opened. -/
structure ClosesAt (text : Text) (start position : Nat) : Prop where
  behind : start ≤ position
  brace : text[position]? = some '\x7d'
  balanced : (span text start position).count '\x7b' = (span text start position).count '\x7d'

theorem closesAt_add_iff {text : Text} {start distance : Nat} :
    ClosesAt text start (distance + start) ↔ ClosesAfter 0 (text.drop start) distance := by
  have length : distance + start + 1 - start = distance + 1 := by omega
  have same : (span text start (distance + start)).count '\x7b' =
      (span text start (distance + start)).count '\x7d' ↔
        0 + balance ((text.drop start).take (distance + 1)) = 0 := by
    rw [span, length, balance_eq_count]
    omega
  rw [ClosesAfter, ← same, List.getElem?_drop, Nat.add_comm start]
  exact ⟨fun closes => ⟨closes.brace, closes.balanced⟩,
    fun closes => ⟨Nat.le_add_left _ _, closes.1, closes.2⟩⟩

theorem matchingBrace_eq_none_iff {text : Text} {start : Nat} :
    matchingBrace text start = none ↔ ∀ position, ¬ ClosesAt text start position := by
  rw [matchingBrace, Option.map_eq_none_iff, closingBrace_eq_none_iff]
  constructor
  · intro never position closes
    obtain ⟨distance, rfl⟩ := Nat.exists_eq_add_of_le' closes.behind
    exact never distance (closesAt_add_iff.mp closes)
  · exact fun never distance closes => never (distance + start) (closesAt_add_iff.mpr closes)

/-- The brace that is found is the first that closes. -/
theorem matchingBrace_eq_some_iff {text : Text} {start stop : Nat} :
    matchingBrace text start = some stop ↔
      IsLeast {position | ClosesAt text start position} stop := by
  rw [matchingBrace, Option.map_eq_some_iff]
  constructor
  · rintro ⟨distance, found, rfl⟩
    obtain ⟨closes, first⟩ := isLeast_of_closingBrace found
    refine ⟨closesAt_add_iff.mpr closes, fun position closesThere => ?_⟩
    obtain ⟨other, rfl⟩ := Nat.exists_eq_add_of_le' closesThere.behind
    exact Nat.add_le_add_right (first (closesAt_add_iff.mp closesThere)) start
  · rintro ⟨closes, first⟩
    obtain ⟨distance, rfl⟩ := Nat.exists_eq_add_of_le' closes.behind
    refine ⟨distance, closingBrace_eq_some_iff.mpr ⟨closesAt_add_iff.mp closes, ?_⟩, rfl⟩
    exact fun other closesThere =>
      Nat.le_of_add_le_add_right (first (closesAt_add_iff.mpr closesThere))

-- The depth falls to -1 before anything is open.
example : matchingBrace "\x7d\x7b\x7b\x7d" 0 = some 3 := by
  decide

/-! ### What a match spans -/

/-- What stands between a brace that shows and its match is a closed body. -/
theorem closedBody_of_matchingBrace {text : Text} {start stop : Nat}
    (opens : (masked .full text)[start]? = some '\x7b')
    (found : matchingBrace (masked .full text) start = some stop) :
    ClosedBody (span text start stop) := by
  have inside : start < text.length := by
    rw [← length_masked .full text]
    exact (List.getElem?_eq_some_iff.mp opens).1
  obtain ⟨rest, shown⟩ : ∃ rest, (masked .full text).drop start = '\x7b' :: rest := by
    rw [← List.head?_drop] at opens
    exact List.head?_eq_some_iff.mp opens
  have alone : masked .full (text.drop start) = '\x7b' :: rest := by
    refine @masked_of_shown_brace (text.take start) _ _ _ (by decide) ?_
    rwa [List.take_append_drop, List.length_take, Nat.min_eq_left inside.le]
  rw [matchingBrace, shown, closingBrace_opening, Option.map_map] at found
  obtain ⟨distance, foundFurther, rfl⟩ := Option.map_eq_some_iff.mp found
  obtain ⟨front, behind, rfl, rfl, closes, above⟩ := closingBrace_eq_some le_rfl foundFurther
  have length : front.length + 1 + start + 1 - start = front.length + 2 := by omega
  show ClosedBody ((text.drop start).take (front.length + 1 + start + 1 - start))
  rw [length]
  exact closedBody_of_split alone closes above

/-- The match is the first closing brace up to which as many braces are closed as are opened, from
wherever the search starts, and there is none only if no brace is such. What it spans from a brace
that shows in a masked text is balanced when it is walked over by itself. -/
theorem matchingBrace_is_first :
    (∀ (text : Text) (start : Nat),
      (∀ stop, matchingBrace text start = some stop ↔
        IsLeast {position | ClosesAt text start position} stop) ∧
      (matchingBrace text start = none ↔ ∀ position, ¬ ClosesAt text start position)) ∧
    ∀ (text : Text) (start stop : Nat), (masked .full text)[start]? = some '\x7b' →
      matchingBrace (masked .full text) start = some stop → ∀ mask : Mask,
        (scan mask (span text start stop)).depth = 0 ∧
          (scan mask (span text start stop)).lowest = 0 ∧
          (scan mask (span text start stop)).openRegion = .code := by
  refine ⟨fun text start => ⟨fun stop => matchingBrace_eq_some_iff, matchingBrace_eq_none_iff⟩,
    fun text start stop opens found mask => ?_⟩
  have closed := closedBody_of_matchingBrace opens found
  rw [scan_eq_of_other_mask mask .full]
  exact ⟨closed.depth, closed.lowest, closed.openRegion⟩

/-- Blocks with braces in literals and in a comment, and a closing brace too many. -/
def hiddenBraces : Text :=
  "'\x7b' \x7b \"\x7d\" /*\x7d*/ \x7b \x7d \x7d \x7d"

/-- Braces in literals and comments do not count. -/
theorem matchingBrace_is_first_of_hiddenBraces :
    (masked .full hiddenBraces)[4]? = some '\x7b' ∧
      matchingBrace (masked .full hiddenBraces) 4 = some 20 ∧
      span hiddenBraces 4 20 = "\x7b \"\x7d\" /*\x7d*/ \x7b \x7d \x7d" ∧
      (scan .full (span hiddenBraces 4 20)).depth = 0 ∧
      (scan .full (span hiddenBraces 4 20)).lowest = 0 ∧
      (scan .full (span hiddenBraces 4 20)).openRegion = .code := by
  have opens : (masked .full hiddenBraces)[4]? = some '\x7b' := by
    decide +kernel
  have found : matchingBrace (masked .full hiddenBraces) 4 = some 20 := by
    decide +kernel
  exact ⟨opens, found, by decide +kernel, matchingBrace_is_first.2 _ 4 20 opens found .full⟩

end BrowserPlan.Java
