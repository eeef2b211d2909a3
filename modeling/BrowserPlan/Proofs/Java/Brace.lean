/-
This file proves what matching braces gives: the text from an opening brace to the one that
closes it is balanced, and no shorter part of it is.

The depth of a text is the number of its opening braces without the number of its closing ones.
Behind the opening brace the depth stays positive until the match, which is the induction that
everything here rests on.
-/

import BrowserPlan.Proofs.Java.Loop

namespace BrowserPlan.Java

/-! ### Depth -/

/-- The depth behind a text in which every brace counts. -/
def balance (text : Text) : Int :=
  depthAfter (text.map weight)

theorem balance_nil : balance [] = 0 :=
  rfl

theorem balance_cons (char : Char) (text : Text) :
    balance (char :: text) = weight char + balance text :=
  rfl

theorem balance_append (front rest : Text) :
    balance (front ++ rest) = balance front + balance rest := by
  rw [balance, List.map_append, depthAfter_append]
  rfl

/-- The depth counts the opening braces and takes off the closing ones. -/
theorem balance_eq_count (text : Text) :
    balance text = (text.count '\x7b' : Int) - text.count '\x7d' := by
  induction text with
  | nil => rfl
  | cons char text inductionHypothesis =>
    rw [balance_cons, inductionHypothesis, List.count_cons, List.count_cons, weight]
    by_cases opens : char = '\x7b'
    · simp [opens]
      omega
    · by_cases closes : char = '\x7d'
      · simp [closes]
        omega
      · simp [opens, closes]

/-- If the depth is never below a bound, neither is its lowest value. -/
theorem le_lowestDepth {bound : Int} {text : Text}
    (above : ∀ part, part <+: text → bound ≤ balance part) :
    bound ≤ lowestDepth (text.map weight) := by
  induction text generalizing bound with
  | nil => exact above [] List.nil_prefix
  | cons char text inductionHypothesis =>
    have start : bound ≤ 0 := above [] List.nil_prefix
    have rest : bound - weight char ≤ lowestDepth (text.map weight) := by
      refine inductionHypothesis fun part opens => ?_
      have next := above (char :: part) (List.cons_prefix_cons.mpr ⟨rfl, opens⟩)
      rw [balance_cons] at next
      omega
    rw [List.map_cons, lowestDepth]
    omega

/-- The lowest value is not above the depth behind any front part of the text. -/
theorem lowestDepth_le {text part : Text} (opens : part <+: text) :
    lowestDepth (text.map weight) ≤ balance part := by
  induction text generalizing part with
  | nil =>
    rw [List.prefix_nil.mp opens]
    exact le_rfl
  | cons char text inductionHypothesis =>
    rw [List.map_cons, lowestDepth]
    cases part with
    | nil =>
      rw [balance_nil]
      exact min_le_left _ _
    | cons other part =>
      obtain ⟨rfl, opensRest⟩ := List.cons_prefix_cons.mp opens
      have rest := inductionHypothesis opensRest
      rw [balance_cons]
      omega

/-! ### Up to the match -/

/-- One more character: it closes, or the search goes on with its weight. -/
theorem closingBrace_cons (depth : Int) (char : Char) (text : Text) :
    closingBrace depth (char :: text) =
      if char = '\x7d' && depth + weight char = 0 then some 0
      else (closingBrace (depth + weight char) text).map (· + 1) :=
  rfl

/-- Where a character does not close what is open, something stays open behind it. -/
theorem one_le_of_not_closing {depth : Int} {char : Char} (inside : 1 ≤ depth)
    (notClosing : ¬ (char = '\x7d' && depth + weight char = 0) = true) :
    1 ≤ depth + weight char := by
  unfold weight at notClosing ⊢
  split_ifs at notClosing ⊢ with opens closes
  · omega
  · simp [closes] at notClosing
    omega
  · omega

/-- Something stays open in a text if it does before it and, behind its first character, in the
rest. -/
theorem one_le_balance_cons {depth : Int} {char : Char} {text : Text} (inside : 1 ≤ depth)
    (above : ∀ part, part <+: text → 1 ≤ depth + weight char + balance part) :
    ∀ part, part <+: char :: text → 1 ≤ depth + balance part := by
  intro part opens
  cases part with
  | nil => rwa [balance_nil, Int.add_zero]
  | cons other part =>
    obtain ⟨rfl, opensRest⟩ := List.cons_prefix_cons.mp opens
    rw [balance_cons, ← Int.add_assoc]
    exact above part opensRest

/-- Until what is open is closed, something stays open. -/
theorem closingBrace_eq_some {depth : Int} {text : Text} {distance : Nat} (inside : 1 ≤ depth)
    (found : closingBrace depth text = some distance) :
    ∃ front rest, text = front ++ '\x7d' :: rest ∧ front.length = distance ∧
      depth + balance front = 1 ∧ ∀ part, part <+: front → 1 ≤ depth + balance part := by
  induction text generalizing depth distance with
  | nil => cases found
  | cons char text inductionHypothesis =>
    rw [closingBrace_cons] at found
    -- The depth counts from the opening brace, so it is carried along and not fixed at 1.
    split_ifs at found with closing
    · simp only [Bool.and_eq_true, decide_eq_true_eq] at closing
      obtain ⟨rfl, zero⟩ := closing
      have closes : weight '\x7d' = -1 := rfl
      refine ⟨[], text, rfl, by simpa using found, ?_, fun part opens => ?_⟩
      · rw [balance_nil]
        omega
      · rw [List.prefix_nil.mp opens, balance_nil]
        omega
    · obtain ⟨further, foundFurther, rfl⟩ := Option.map_eq_some_iff.mp found
      obtain ⟨front, rest, rfl, length, last, above⟩ :=
        inductionHypothesis (one_le_of_not_closing inside closing) foundFurther
      refine ⟨char :: front, rest, rfl, by rw [List.length_cons, length], ?_,
        one_le_balance_cons inside above⟩
      rw [balance_cons, ← Int.add_assoc, last]

/-- Where something stays open up to a brace that closes it, that brace is the match. -/
theorem closingBrace_append {depth : Int} {front : Text}
    (above : ∀ part, part <+: front → 1 ≤ depth + balance part)
    (closes : depth + balance front = 1) (rest : Text) :
    closingBrace depth (front ++ '\x7d' :: rest) = some front.length := by
  induction front generalizing depth with
  | nil =>
    rw [balance_nil, Int.add_zero] at closes
    rw [List.nil_append, closingBrace_cons, closes]
    rfl
  | cons char front inductionHypothesis =>
    have first : 1 ≤ depth + weight char := by
      have one := above [char] (List.prefix_append [char] front)
      rwa [balance_cons, balance_nil, Int.add_zero] at one
    rw [List.cons_append, closingBrace_cons, if_neg, inductionHypothesis]
    · rfl
    · intro part opens
      have longer := above (char :: part) (List.cons_prefix_cons.mpr ⟨rfl, opens⟩)
      rwa [balance_cons, ← Int.add_assoc] at longer
    · rwa [balance_cons, ← Int.add_assoc] at closes
    · simp only [Bool.and_eq_true, decide_eq_true_eq, not_and]
      omega

/-- If what is open is never closed, something stays open all along. -/
theorem closingBrace_eq_none {depth : Int} {text : Text} (inside : 1 ≤ depth)
    (missing : closingBrace depth text = none) :
    ∀ part, part <+: text → 1 ≤ depth + balance part := by
  induction text generalizing depth with
  | nil =>
    intro part opens
    rwa [List.prefix_nil.mp opens, balance_nil, Int.add_zero]
  | cons char text inductionHypothesis =>
    rw [closingBrace_cons] at missing
    split_ifs at missing with closing
    exact one_le_balance_cons inside (inductionHypothesis (one_le_of_not_closing inside closing)
      (Option.map_eq_none_iff.mp missing))

end BrowserPlan.Java
