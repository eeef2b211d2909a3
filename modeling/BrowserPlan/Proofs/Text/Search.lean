/-
This file gives the search of a text its meaning: from the left, a place where the reader
fails is passed over and a finding is passed over as a whole.

A search is written as a recursion over the characters with a count of those still to be passed
over. The relation here has no such count. It is the form in which searches are reasoned about:
one case for a miss and one for a hit.
-/

import BrowserPlan.Proofs.Text.Blank
import BrowserPlan.Text.Search
import Mathlib.Data.List.Basic

namespace BrowserPlan.Text

variable {Value : Type}

/-! ### Passing over a finding -/

theorem findFrom_skip (read : Option Char → Reader Value) (before : Option Char)
    (position : Nat) (front rest : Text) :
    findFrom read before position front.length (front ++ rest) =
      findFrom read (front.getLast?.or before) (position + front.length) 0 rest := by
  induction front generalizing before position with
  | nil => rfl
  | cons char front inductionHypothesis =>
    rw [List.length_cons, List.cons_append, findFrom, inductionHypothesis, List.getLast?_cons,
      Nat.add_assoc, Nat.add_comm 1]
    cases front.getLast? <;> rfl

theorem findFrom_miss {read : Option Char → Reader Value} {before : Option Char} {char : Char}
    {text : Text} (miss : read before (char :: text) = none) (position : Nat) :
    findFrom read before position 0 (char :: text) =
      findFrom read (some char) (position + 1) 0 text := by
  rw [findFrom, miss]

/-- What is read is found, and the search goes on behind it. -/
theorem findFrom_hit {read : Option Char → Reader Value} {before : Option Char}
    {passed rest : Text} {value : Value} (notEmpty : passed ≠ [])
    (hit : read before (passed ++ rest) = some (value, rest)) (position : Nat) :
    findFrom read before position 0 (passed ++ rest) =
      (position, value) ::
        findFrom read passed.getLast? (position + passed.length) 0 rest := by
  cases passed with
  | nil => exact absurd rfl notEmpty
  | cons char passed =>
    rw [List.cons_append] at hit ⊢
    rw [findFrom, hit]
    have skipped : (passed ++ rest).length - rest.length = passed.length := by
      rw [List.length_append, Nat.add_sub_cancel]
    simp only [skipped]
    rw [findFrom_skip, List.getLast?_cons, List.length_cons, Nat.add_assoc,
      Nat.add_comm 1]
    cases passed.getLast? <;> rfl

/-- What is read where a search starts is found there. -/
theorem mem_findFrom_of_read {read : Option Char → Reader Value} {before : Option Char}
    {text rest : Text} {value : Value} (notEmpty : text ≠ [])
    (hit : read before text = some (value, rest)) (position : Nat) :
    (position, value) ∈ findFrom read before position 0 text := by
  cases text with
  | nil => exact absurd rfl notEmpty
  | cons char text =>
    rw [findFrom, hit]
    exact List.mem_cons_self

/-- A reader that does not look back finds the same wherever the text stands. -/
theorem map_snd_findFrom (read : Reader Value) (before other : Option Char)
    (position start skipped : Nat) (text : Text) :
    (findFrom (fun _ => read) before position skipped text).map Prod.snd =
      (findFrom (fun _ => read) other start skipped text).map Prod.snd := by
  induction text generalizing before other position start skipped with
  | nil => rfl
  | cons char text inductionHypothesis =>
    cases skipped with
    | succ skipped => exact inductionHypothesis _ _ _ _ _
    | zero =>
      rw [findFrom, findFrom]
      cases read (char :: text) with
      | none => exact inductionHypothesis _ _ _ _ _
      | some found => exact congrArg (found.1 :: ·) (inductionHypothesis _ _ _ _ _)

/-! ### The meaning of a search -/

/-- A reader that succeeds takes something off the front of the text. -/
def Advances (read : Option Char → Reader Value) : Prop :=
  ∀ before text value rest, read before text = some (value, rest) →
    ∃ passed, passed ≠ [] ∧ text = passed ++ rest

/-- What a search finds in a text that starts at `position`. -/
inductive Findings (read : Option Char → Reader Value) :
    Option Char → Nat → Text → List (Nat × Value) → Prop
  | done (before : Option Char) (position : Nat) : Findings read before position [] []
  | miss {before : Option Char} {position : Nat} {char : Char} {text : Text}
      {found : List (Nat × Value)} (fails : read before (char :: text) = none)
      (further : Findings read (some char) (position + 1) text found) :
      Findings read before position (char :: text) found
  | hit {before : Option Char} {position : Nat} {passed rest : Text} {value : Value}
      {found : List (Nat × Value)}
      (succeeds : read before (passed ++ rest) = some (value, rest))
      (further : Findings read passed.getLast? (position + passed.length) rest found) :
      Findings read before position (passed ++ rest) ((position, value) :: found)

/-- A search finds what there is to be found. -/
theorem findings_findFrom {read : Option Char → Reader Value} (advances : Advances read)
    (before : Option Char) (position : Nat) (text : Text) :
    Findings read before position text (findFrom read before position 0 text) := by
  -- A hit leaves any shorter text, so the induction is on the length.
  induction length : text.length using Nat.strongRecOn generalizing before position text with
  | _ length inductionHypothesis =>
    subst length
    cases text with
    | nil => exact .done before position
    | cons char text =>
      cases outcome : read before (char :: text) with
      | none =>
        rw [findFrom_miss outcome]
        exact .miss outcome (inductionHypothesis _ (Nat.lt_succ_self _) _ _ _ rfl)
      | some found =>
        obtain ⟨value, rest⟩ := found
        obtain ⟨passed, notEmpty, equal⟩ := advances _ _ _ _ outcome
        have shorter : rest.length < (char :: text).length := by
          rw [equal, List.length_append]
          exact Nat.lt_add_of_pos_left (List.length_pos_iff.mpr notEmpty)
        rw [equal] at outcome ⊢
        rw [findFrom_hit notEmpty outcome]
        exact .hit outcome (inductionHypothesis _ shorter _ _ _ rfl)

/-- Whatever a search finds, the reader gave it somewhere in the text. -/
theorem exists_of_mem_findFrom {read : Option Char → Reader Value} {before : Option Char}
    {start skipped position : Nat} {text : Text} {value : Value}
    (found : (position, value) ∈ findFrom read before start skipped text) :
    ∃ before part rest, part <:+ text ∧ read before part = some (value, rest) := by
  induction text generalizing before start skipped with
  | nil => cases found
  | cons char text inductionHypothesis =>
    have later {before : Option Char} {start skipped : Nat}
        (found : (position, value) ∈ findFrom read before start skipped text) :
        ∃ before part rest, part <:+ char :: text ∧ read before part = some (value, rest) := by
      obtain ⟨before, part, rest, isSuffix, given⟩ := inductionHypothesis found
      exact ⟨before, part, rest, isSuffix.trans (List.suffix_cons char text), given⟩
    cases skipped with
    | succ skipped => exact later found
    | zero =>
      cases outcome : read before (char :: text) with
      | none =>
        rw [findFrom_miss outcome] at found
        exact later found
      | some hit =>
        obtain ⟨first, rest⟩ := hit
        rw [findFrom, outcome] at found
        obtain here | further := List.mem_cons.mp found
        · obtain rfl := congrArg Prod.snd here
          exact ⟨_, _, rest, List.suffix_rfl, outcome⟩
        · exact later further

/-- A search finds nothing in front of the place where it starts. -/
theorem le_of_mem_findFrom {read : Option Char → Reader Value} {before : Option Char}
    {start skipped : Nat} {text : Text} {found : Nat × Value}
    (member : found ∈ findFrom read before start skipped text) : start ≤ found.1 := by
  induction text generalizing before start skipped with
  | nil => cases member
  | cons char text inductionHypothesis =>
    cases skipped with
    | succ skipped => exact Nat.le_of_succ_le (inductionHypothesis member)
    | zero =>
      cases outcome : read before (char :: text) with
      | none =>
        rw [findFrom_miss outcome] at member
        exact Nat.le_of_succ_le (inductionHypothesis member)
      | some hit =>
        rw [findFrom, outcome] at member
        obtain rfl | later := List.mem_cons.mp member
        · exact Nat.le_refl start
        · exact Nat.le_of_succ_le (inductionHypothesis later)

/-- A finding stands behind the ones before it. -/
theorem pairwise_findFrom (read : Option Char → Reader Value) (before : Option Char)
    (start skipped : Nat) (text : Text) :
    (findFrom read before start skipped text).Pairwise fun first second =>
      first.1 < second.1 := by
  induction text generalizing before start skipped with
  | nil => exact .nil
  | cons char text inductionHypothesis =>
    cases skipped with
    | succ skipped => exact inductionHypothesis _ _ _
    | zero =>
      rw [findFrom]
      cases read before (char :: text) with
      | none => exact inductionHypothesis _ _ _
      | some hit =>
        exact .cons (fun _ member => le_of_mem_findFrom member) (inductionHypothesis _ _ _)

/-! ### Readers leave a rest of the text -/

theorem isSuffix_of_dropSomeBlanks? {text rest : Text} (read : dropSomeBlanks? text = some rest) :
    rest <:+ text := by
  cases text with
  | nil => cases read
  | cons char text =>
    rw [dropSomeBlanks?] at read
    split_ifs at read
    cases read
    exact (dropBlanks_isSuffix text).trans (List.suffix_cons char text)

theorem isSuffix_of_after? {opening text rest : Text} (read : after? opening text = some rest) :
    rest <:+ text := by
  rw [after?_eq_some_iff.mp read]
  exact List.suffix_append opening rest

end BrowserPlan.Text
