/-
This file proves that trimming a text does not change what is found in it.

A reader that fails at a blank and takes no notice of blanks at the end of a text finds the same in
the trimmed text, and cuts it into the same pieces apart from the blanks around them. Readers of
this kind are built of openings that hold no blank.
-/

import BrowserPlan.Proofs.Text.Cut

namespace BrowserPlan.Text

variable {Value : Type}

/-! ### What trimming takes away -/

theorem exists_append_dropBlanks (text : Text) :
    ∃ blanks, isAllBlank blanks = true ∧ text = blanks ++ dropBlanks text :=
  ⟨text.takeWhile isBlank, List.all_eq_true.mpr fun _ member => List.mem_takeWhile_imp member,
    List.takeWhile_append_dropWhile.symm⟩

theorem exists_trimRight_append (text : Text) :
    ∃ blanks, isAllBlank blanks = true ∧ text = trimRight text ++ blanks := by
  obtain ⟨blanks, blank, equal⟩ := exists_append_dropBlanks text.reverse
  refine ⟨blanks.reverse, by rwa [isAllBlank, List.all_reverse], ?_⟩
  rw [trimRight, ← dropBlanks, ← List.reverse_append, ← equal, List.reverse_reverse]

/-! ### Readers that take no notice of blanks -/

/-- The reader reads the same if blanks are put behind the text. -/
def IgnoresBack (read : Text → Option Value) : Prop :=
  ∀ text blanks, isAllBlank blanks = true → read (text ++ blanks) = read text

/-- The reader also fails at a blank. -/
structure IgnoresBlanks (read : Text → Option Value) : Prop where
  front (char : Char) (text : Text) : isBlank char = true → read (char :: text) = none
  back : IgnoresBack read

section IgnoresBlanks

variable {read : Text → Option Value} (ignores : IgnoresBlanks read)

include ignores

theorem findFirst_dropBlanks (text : Text) :
    findFirst read (dropBlanks text) = findFirst read text := by
  induction text with
  | nil => rfl
  | cons char text inductionHypothesis =>
    by_cases blank : isBlank char = true
    · rw [dropBlanks_cons_of_isBlank blank, findFirst, ignores.front char text blank,
        Option.none_or, inductionHypothesis]
    · rw [dropBlanks_cons (Bool.eq_false_iff.mpr blank)]

theorem findFirst_append_blanks (text : Text) {blanks : Text} (blank : isAllBlank blanks = true) :
    findFirst read (text ++ blanks) = findFirst read text := by
  induction text with
  | nil =>
    rw [List.nil_append, ← findFirst_dropBlanks ignores, dropBlanks_eq_nil_iff.mpr blank]
  | cons char text inductionHypothesis =>
    have here := ignores.back (char :: text) blanks blank
    rw [List.cons_append] at here ⊢
    rw [findFirst, findFirst, here, inductionHypothesis]

/-- Blanks at the ends do not change what is found first. -/
theorem findFirst_trim (text : Text) : findFirst read (trim text) = findFirst read text := by
  obtain ⟨blanks, blank, equal⟩ := exists_trimRight_append (dropBlanks text)
  calc
    findFirst read (trim text) = findFirst read (trim text ++ blanks) :=
      (findFirst_append_blanks ignores _ blank).symm
    _ = findFirst read (dropBlanks text) := congrArg _ equal.symm
    _ = findFirst read text := findFirst_dropBlanks ignores text

end IgnoresBlanks

/-! ### Pieces of a trimmed text -/

theorem exists_cutBefore (marks : Text → Bool) (text : Text) :
    ∃ piece pieces, cutBefore marks text = piece :: pieces := by
  cases text with
  | nil => exact ⟨_, _, rfl⟩
  | cons char text =>
    rw [cutBefore]
    split_ifs
    · exact ⟨_, _, rfl⟩
    · cases cutBefore marks text <;> exact ⟨_, _, rfl⟩

theorem cutBefore_cons {marks : Text → Bool} {text piece : Text} {pieces : List Text}
    (cut : cutBefore marks text = piece :: pieces) (char : Char) :
    cutBefore marks (char :: text) =
      if marks (char :: text) then [] :: (char :: piece) :: pieces
      else (char :: piece) :: pieces := by
  rw [cutBefore, cut]

/-- What is trimmed on the right of a text depends only on what is so of its rest. -/
theorem trimRight_cons_congr (char : Char) {text other : Text}
    (same : trimRight text = trimRight other) :
    trimRight (char :: text) = trimRight (char :: other) := by
  have sameBlank : isAllBlank text = isAllBlank other := by
    rw [Bool.eq_iff_iff, ← trimRight_eq_nil_iff, ← trimRight_eq_nil_iff, same]
  rw [trimRight_cons, trimRight_cons, sameBlank, same]

section IgnoresBlanks

variable {read : Text → Option Value} (ignores : IgnoresBlanks read)

include ignores

theorem map_trim_cutBefore_dropBlanks (text : Text) :
    (cutBefore (fun text => (read text).isSome) (dropBlanks text)).map trim =
      (cutBefore (fun text => (read text).isSome) text).map trim := by
  induction text with
  | nil => rfl
  | cons char text inductionHypothesis =>
    by_cases blank : isBlank char = true
    · obtain ⟨piece, pieces, cut⟩ := exists_cutBefore (fun text => (read text).isSome) text
      rw [dropBlanks_cons_of_isBlank blank, inductionHypothesis, cutBefore_cons cut,
        ignores.front char text blank, cut, Option.isSome_none, if_neg Bool.false_ne_true,
        List.map_cons, List.map_cons, trim_cons_of_isBlank blank]
    · rw [dropBlanks_cons (Bool.eq_false_iff.mpr blank)]

theorem map_trimRight_cutBefore_append (text : Text) {blanks : Text}
    (blank : isAllBlank blanks = true) :
    (cutBefore (fun text => (read text).isSome) (text ++ blanks)).map trimRight =
      (cutBefore (fun text => (read text).isSome) text).map trimRight := by
  induction text with
  | nil =>
    induction blanks with
    | nil => rfl
    | cons char blanks inductionHypothesis =>
      rw [isAllBlank, List.all_cons, Bool.and_eq_true] at blank
      obtain ⟨piece, pieces, cut⟩ := exists_cutBefore (fun text => (read text).isSome) blanks
      have further := inductionHypothesis blank.2
      rw [List.nil_append, cut] at further
      obtain ⟨nothing, rfl⟩ : trimRight piece = [] ∧ pieces = [] := by
        simpa [cutBefore, trimRight] using further
      rw [List.nil_append, cutBefore_cons cut, ignores.front char blanks blank.1,
        Option.isSome_none, if_neg Bool.false_ne_true, List.map_singleton, trimRight_cons,
        if_pos ⟨trimRight_eq_nil_iff.mp nothing, blank.1⟩]
      rfl
  | cons char text inductionHypothesis =>
    obtain ⟨piece, pieces, cut⟩ := exists_cutBefore (fun text => (read text).isSome) text
    obtain ⟨longPiece, longPieces, longCut⟩ :=
      exists_cutBefore (fun text => (read text).isSome) (text ++ blanks)
    rw [cut, longCut, List.map_cons, List.map_cons] at inductionHypothesis
    obtain ⟨samePiece, samePieces⟩ := List.cons.inj inductionHypothesis
    have here := ignores.back (char :: text) blanks blank
    rw [List.cons_append] at here ⊢
    rw [cutBefore_cons cut, cutBefore_cons longCut, here]
    split_ifs <;> simp only [List.map_cons, samePieces, trimRight_cons_congr char samePiece]

/-- Blanks at the ends do not change the trimmed pieces. -/
theorem map_trim_cutBefore_trim (text : Text) :
    (cutBefore (fun text => (read text).isSome) (trim text)).map trim =
      (cutBefore (fun text => (read text).isSome) text).map trim := by
  obtain ⟨blanks, blank, equal⟩ := exists_trimRight_append (dropBlanks text)
  have trimmed (pieces : List Text) : pieces.map trim = (pieces.map trimRight).map trim := by
    rw [List.map_map]
    exact List.map_congr_left fun piece _ => (trim_trimRight piece).symm
  rw [trimmed, trim, ← map_trimRight_cutBefore_append ignores _ blank, ← equal, ← trimmed,
    map_trim_cutBefore_dropBlanks ignores]

end IgnoresBlanks

/-! ### Openings without blanks -/

section Opening

variable {opening blanks : Text} (solid : opening.any isBlank = false)
  (blank : isAllBlank blanks = true)

include solid

theorem after?_eq_none_of_isBlank (notEmpty : opening ≠ []) {char : Char}
    (isBlank : isBlank char = true) (text : Text) : after? opening (char :: text) = none := by
  refine after?_eq_none fun starts => ?_
  obtain ⟨first, opening, rfl⟩ := List.exists_cons_of_ne_nil notEmpty
  obtain ⟨rfl, _⟩ := List.cons_prefix_cons.mp starts
  exact List.any_eq_false.mp solid first List.mem_cons_self isBlank

include blank

theorem after?_append_blanks (text : Text) :
    after? opening (text ++ blanks) = (after? opening text).map (· ++ blanks) := by
  induction opening generalizing text with
  | nil => rfl
  | cons first opening inductionHypothesis =>
    have further : opening.any isBlank = false := by
      rw [List.any_cons, Bool.or_eq_false_iff] at solid
      exact solid.2
    cases text with
    | cons char text =>
      rw [List.cons_append, after?, after?]
      split_ifs
      · exact inductionHypothesis further text
      · rfl
    | nil =>
      cases blanks with
      | nil => rfl
      | cons char blanks =>
        rw [isAllBlank, List.all_cons, Bool.and_eq_true] at blank
        exact after?_eq_none_of_isBlank solid (List.cons_ne_nil _ _) blank.1 blanks

theorem after?_dropBlanks_append_blanks (notEmpty : opening ≠ []) (text : Text) :
    after? opening (dropBlanks (text ++ blanks)) =
      (after? opening (dropBlanks text)).map (· ++ blanks) := by
  induction text with
  | nil =>
    obtain ⟨first, opening, rfl⟩ := List.exists_cons_of_ne_nil notEmpty
    rw [List.nil_append, dropBlanks_eq_nil_iff.mpr blank]
    rfl
  | cons char text inductionHypothesis =>
    rw [List.cons_append]
    by_cases here : isBlank char = true
    · rw [dropBlanks_cons_of_isBlank here, dropBlanks_cons_of_isBlank here, inductionHypothesis]
    · have notBlank := Bool.eq_false_iff.mpr here
      rw [dropBlanks_cons notBlank, dropBlanks_cons notBlank]
      exact after?_append_blanks solid blank (char :: text)

theorem opensWith_append_blanks (text : Text) :
    opensWith opening (text ++ blanks) = opensWith opening text := by
  rw [opensWith, after?_append_blanks solid blank, Option.isSome_map, opensWith]

theorem upTo_append_blanks (notEmpty : opening ≠ []) (text : Text) :
    upTo (after? opening) (text ++ blanks) =
      (upTo (after? opening) text).map fun (passed, rest) => (passed, rest ++ blanks) := by
  induction text with
  | nil =>
    obtain ⟨first, opening, rfl⟩ := List.exists_cons_of_ne_nil notEmpty
    refine upTo_eq_none fun held => ?_
    have isHeld : first ∈ blanks := held.subset List.mem_cons_self
    exact List.any_eq_false.mp solid first List.mem_cons_self
      (List.all_eq_true.mp blank first isHeld)
  | cons char text inductionHypothesis =>
    have here := after?_append_blanks solid blank (char :: text)
    rw [List.cons_append] at here ⊢
    rw [upTo, upTo, here, inductionHypothesis]
    cases after? opening (char :: text) with
    | some rest => rfl
    | none =>
      cases upTo (after? opening) text <;> rfl

omit blank in
/-- What is read behind an opening ignores what the reader behind it does. -/
theorem ignoresBlanks_after? (notEmpty : opening ≠ []) {read : Text → Option Value}
    (ignores : IgnoresBack read) :
    IgnoresBlanks fun text => (after? opening text).bind read where
  front char text blank := by
    rw [after?_eq_none_of_isBlank solid notEmpty blank, Option.bind_none]
  back text blanks blank := by
    dsimp only
    rw [after?_append_blanks solid blank, Option.bind_map]
    exact Option.bind_congr fun rest _ => ignores rest blanks blank

omit blank in
theorem ignoresBack_after?_dropBlanks (notEmpty : opening ≠ []) {read : Text → Option Value}
    (ignores : IgnoresBack read) :
    IgnoresBack fun text => (after? opening (dropBlanks text)).bind read := by
  intro text blanks blank
  dsimp only
  rw [after?_dropBlanks_append_blanks solid blank notEmpty, Option.bind_map]
  exact Option.bind_congr fun rest _ => ignores rest blanks blank

omit blank in
/-- A part without blanks is held by a text if the trimmed text holds it. -/
theorem infix_trim_iff (notEmpty : opening ≠ []) (text : Text) :
    opening <:+: trim text ↔ opening <:+: text := by
  have ignores : IgnoresBlanks fun text => (after? opening text).bind fun _ => some () :=
    ignoresBlanks_after? solid notEmpty fun _ _ _ => rfl
  have held (text : Text) : opening <:+: text ↔
      findFirst (fun text => (after? opening text).bind fun _ => some ()) text ≠ none := by
    rw [Ne, findFirst_eq_none_iff, not_forall, List.infix_iff_prefix_suffix]
    refine exists_congr fun part => ?_
    rw [Classical.not_imp, and_comm, ← opensWith_iff, opensWith]
    refine and_congr_right fun _ => ?_
    cases after? opening part <;> simp
  rw [held, held, findFirst_trim ignores]

end Opening

end BrowserPlan.Text
