/-
This file proves that recognising actions undoes the printing of statements.

Every construct is searched for on its own, so that the findings come out in groups. Each
search finds in every statement just what the statement holds for it, at positions that grow
from statement to statement. The groups together are therefore a permutation of the findings
in the order of the text, and sorting by position restores that order.
-/

import BrowserPlan.Proofs.Action.Recognition
import BrowserPlan.Proofs.Sort
import Mathlib.Data.List.Perm.Basic
import Mathlib.Data.List.Nodup

namespace BrowserPlan

/-! ### The findings of a whole body -/

/-- The findings in statements that are printed from the given position on. -/
def findingsFrom (position : Nat) : List Statement → List Finding
  | [] => []
  | statement :: statements =>
      statement.findings.map (Finding.shift position) ++
        findingsFrom (position + (statement.text.length + 1)) statements

/-- A finding as the search for its construct lists it. -/
def Finding.listed (finding : Finding) : Nat × Action :=
  (finding.position, finding.action)

theorem foundBy_map_shift (construct : Construct) (offset : Nat) (findings : List Finding) :
    foundBy construct (findings.map (Finding.shift offset)) =
      (foundBy construct findings).map fun (position, action) => (offset + position, action) := by
  induction findings with
  | nil => rfl
  | cons finding findings inductionHypothesis =>
    have single : foundBy construct [finding.shift offset] =
        (foundBy construct [finding]).map fun (position, action) =>
          (offset + position, action) := by
      obtain ⟨own, position, action⟩ := finding
      rcases eq_or_ne own construct with rfl | other
      · rw [foundBy_self]
        exact foundBy_self own (offset + position) action
      · rw [foundBy_of_ne other]
        exact foundBy_of_ne other (offset + position) action
    rw [List.map_cons, ← List.singleton_append, foundBy_append, single, inductionHypothesis,
      ← List.map_append, ← foundBy_append, List.singleton_append]

/-- The search in printed statements finds, one statement after the other, what each of them
holds. -/
theorem findFrom_lines {statements : List Statement}
    (wellFormed : ∀ statement ∈ statements, statement.WellFormed) (construct : Construct)
    (position : Nat) (rest : Text) :
    Text.findFrom construct.read (some '\n') position 0 (lines statements ++ rest) =
      (foundBy construct (findingsFrom position statements)).map
          (fun (position, action) => (position, some action)) ++
        Text.findFrom construct.read (some '\n') (position + (lines statements).length) 0 rest := by
  induction statements generalizing position with
  | nil => rfl
  | cons statement statements inductionHypothesis =>
    have further := inductionHypothesis
      (fun other member => wellFormed other (List.mem_cons_of_mem _ member))
      (position + (statement.text.length + 1))
    have newline : construct.isStrangeTo "\n" = true := by
      cases construct <;> rfl
    -- Each statement yields its finding or nothing, and no construct reads on over the newline.
    have found := yields_statement (wellFormed statement List.mem_cons_self) construct
      (show (some '\n').any Text.isWord = false from rfl) ("\n" ++ (lines statements ++ rest))
      position
    have behind : position + statement.text.length + ("\n" : Text).length =
        position + (statement.text.length + 1) := by
      rw [Nat.add_assoc]
      rfl
    have finish : position + (statement.text ++ ("\n" ++ lines statements)).length =
        position + (statement.text.length + 1) + (lines statements).length := by
      rw [List.length_append, List.length_append, ← behind, Nat.add_assoc, Nat.add_assoc]
    rw [lines_cons, finish, List.append_assoc, List.append_assoc, found,
      (quiet_of_code newline _).findFrom, behind, findingsFrom, foundBy_append, foundBy_map_shift,
      List.map_append, List.map_map, List.append_assoc]
    exact congrArg (List.append _) further

/-- The search for a construct in a printed body. -/
theorem findAll_bodyOf {statements : List Statement}
    (wellFormed : ∀ statement ∈ statements, statement.WellFormed) (construct : Construct) :
    construct.findAll (bodyOf statements) = foundBy construct (findingsFrom 2 statements) := by
  have opening : construct.isStrangeTo "\x7b\n" = true := by
    cases construct <;> rfl
  have closing : construct.isStrangeTo "\x7d" = true := by
    cases construct <;> rfl
  have found : Text.findAll construct.read (bodyOf statements) =
      (foundBy construct (findingsFrom 2 statements)).map
        fun (position, action) => (position, some action) := by
    show Text.findFrom construct.read none 0 0 ("\x7b\n" ++ (lines statements ++ "\x7d")) = _
    rw [(quiet_of_code opening _).findFrom]
    refine (findFrom_lines wellFormed construct 2 "\x7d").trans ?_
    have nothing := (quiet_of_code closing []).findFrom (some '\n') (2 + (lines statements).length)
    rw [List.append_nil] at nothing
    rw [nothing, Text.findFrom, List.append_nil]
  rw [Construct.findAll, found, List.filterMap_map]
  exact List.filterMap_some

/-! ### The order of the findings -/

/-- The groups of findings hold every finding once. -/
theorem flatMap_foundBy_perm (findings : List Finding) :
    (Construct.all.flatMap fun construct => foundBy construct findings).Perm
      (findings.map Finding.listed) := by
  induction findings with
  | nil => exact List.Perm.refl _
  | cons finding findings inductionHypothesis =>
    have single : (Construct.all.flatMap fun construct => foundBy construct [finding]) =
        [finding.listed] := by
      obtain ⟨construct, position, action⟩ := finding
      cases construct <;> rfl
    have split := List.flatMap_append_perm Construct.all
      (fun construct => foundBy construct [finding]) fun construct => foundBy construct findings
    rw [single] at split
    have cons (construct : Construct) : foundBy construct (finding :: findings) =
        foundBy construct [finding] ++ foundBy construct findings :=
      foundBy_append construct [finding] findings
    simp only [cons]
    exact split.symm.trans (inductionHypothesis.cons finding.listed)

/-- Sorting restores an order of growing positions. -/
theorem mergeSort_eq_of_perm {found located : List (Nat × Action)} (perm : found.Perm located)
    (grows : located.Pairwise fun first second => first.1 < second.1) :
    found.mergeSort (fun first second => first.1 ≤ second.1) = located := by
  have positions : (located.map Prod.fst).Nodup :=
    List.pairwise_map.mpr (grows.imp fun less => Nat.ne_of_lt less)
  have permuted := (List.mergeSort_perm found fun first second => first.1 ≤ second.1).trans perm
  refine permuted.eq_of_pairwise ?_ (pairwise_mergeSort_key Prod.fst found)
    (grows.imp Nat.le_of_lt)
  intro first second inSorted inLocated le ge
  exact List.inj_on_of_nodup_map positions (permuted.subset inSorted) inLocated
    (Nat.le_antisymm le ge)

theorem length_lt_append {front back : Text} (left : back ≠ []) :
    front.length < (front ++ back).length := by
  rw [List.length_append]
  exact Nat.lt_add_of_pos_right (List.length_pos_of_ne_nil left)

/-- In a statement every finding lies behind the one before, and inside of the statement. -/
theorem Statement.findings_grow (statement : Statement) :
    statement.findings.Pairwise (fun first second => first.position < second.position) ∧
      ∀ finding ∈ statement.findings, finding.position < statement.text.length := by
  cases statement with
  | openPage url =>
    have inside : 0 < (openPage url).text.length :=
      List.length_pos_of_ne_nil (List.cons_ne_nil _ _)
    exact ⟨List.pairwise_singleton _ _, by simpa [findings] using inside⟩
  | onElement target call =>
    have inside : 7 < (onElement target call).text.length :=
      @length_lt_append "driver." (target.lookup ++ (call.text ++ ";")) (List.cons_ne_nil _ _)
    exact ⟨List.pairwise_singleton _ _, by simpa [findings] using inside⟩
  | waitUntil condition target =>
    have inside : 30 + condition.length < (waitUntil condition target).text.length := by
      have called : ("(" ++ (target.text ++ "));") : Text) ≠ [] := List.cons_ne_nil _ _
      have inside := @length_lt_append ("wait.until(ExpectedConditions." ++ condition) _ called
      rwa [List.append_assoc, List.length_append] at inside
    cases taken : assertion? condition target with
    | none =>
      simp only [findings, taken, Option.map_none, Option.toList_none]
      refine ⟨List.pairwise_singleton _ _, fun finding member => ?_⟩
      rw [List.mem_singleton.mp member]
      show 11 < _
      omega
    | some assertion =>
      simp only [findings, taken, Option.map_some, Option.toList_some]
      have behind : 11 < 30 + (condition.length - assertion.1.anchor.length) := by
        omega
      refine ⟨List.pairwise_pair.mpr behind, fun finding member => ?_⟩
      rcases List.mem_pair.mp member with rfl | rfl
      · show 11 < _
        omega
      · show 30 + (condition.length - assertion.1.anchor.length) < _
        omega
  | count target =>
    have inside : 7 < (count target).text.length :=
      @length_lt_append "driver." ("findElements(" ++ (target.text ++ ").size();"))
        (List.cons_ne_nil _ _)
    exact ⟨List.pairwise_singleton _ _, by simpa [findings] using inside⟩
  | compareText expected target =>
    have inside : 22 + (Java.literal expected).length <
        (compareText expected target).text.length := by
      rw [text_compareText, ← length_comparisonOpening]
      exact length_lt_append (List.cons_ne_nil _ _)
    have behind : 0 < 22 + (Java.literal expected).length := by
      omega
    refine ⟨List.pairwise_pair.mpr behind, ?_⟩
    simpa [findings] using And.intro (behind.trans inside) inside

theorem le_position_of_mem_findingsFrom {statements : List Statement} {position : Nat}
    {finding : Finding} (member : finding ∈ findingsFrom position statements) :
    position ≤ finding.position := by
  induction statements generalizing position with
  | nil => cases member
  | cons statement statements inductionHypothesis =>
    rcases List.mem_append.mp member with here | further
    · obtain ⟨own, _, rfl⟩ := List.mem_map.mp here
      exact Nat.le_add_right position own.position
    · exact (Nat.le_add_right position _).trans (inductionHypothesis further)

/-- The findings of a body come in the order of their positions. -/
theorem findingsFrom_grow (position : Nat) (statements : List Statement) :
    (findingsFrom position statements).Pairwise
      fun first second => first.position < second.position := by
  induction statements generalizing position with
  | nil => exact List.Pairwise.nil
  | cons statement statements inductionHypothesis =>
    obtain ⟨grows, inside⟩ := statement.findings_grow
    refine List.pairwise_append.mpr ⟨?_, inductionHypothesis _, ?_⟩
    · exact List.pairwise_map.mpr (grows.imp fun less => Nat.add_lt_add_left less position)
    · intro first here second further
      obtain ⟨own, member, rfl⟩ := List.mem_map.mp here
      have behind := le_position_of_mem_findingsFrom further
      have before := inside own member
      show position + own.position < second.position
      omega

/-! ### Recognising what was printed -/

/-- The actions of a body are those of its statements one after the other. -/
theorem map_action_findingsFrom (position : Nat) (statements : List Statement) :
    (findingsFrom position statements).map Finding.action =
      statements.flatMap Statement.recognised := by
  induction statements generalizing position with
  | nil => rfl
  | cons statement statements inductionHypothesis =>
    rw [findingsFrom, List.map_append, List.map_map, inductionHypothesis, List.flatMap_cons,
      ← statement.map_action_findings]
    rfl

/-- In the order of the source, the actions of a printed body are its findings from the left. -/
theorem actionsOfBody_source {statements : List Statement}
    (wellFormed : ∀ statement ∈ statements, statement.WellFormed) :
    actionsOfBody (bodyOf statements) .source =
      (findingsFrom 2 statements).map Finding.action := by
  have groups : findActions (bodyOf statements) =
      Construct.all.flatMap fun construct => foundBy construct (findingsFrom 2 statements) := by
    rw [findActions]
    simp only [findAll_bodyOf wellFormed]
  have grows : ((findingsFrom 2 statements).map Finding.listed).Pairwise
      fun first second => first.1 < second.1 :=
    List.pairwise_map.mpr (findingsFrom_grow 2 statements)
  have sorted := mergeSort_eq_of_perm (flatMap_foundBy_perm (findingsFrom 2 statements)) grows
  rw [actionsOfBody, masked_bodyOf wellFormed, groups]
  refine (congrArg (List.map Prod.snd) sorted).trans ?_
  rw [List.map_map]
  rfl

/-- Recognising actions undoes printing: a printed body gives, in the order of the source, what
each of its statements stands for, and nothing else but the assertions for which conditions are
taken as well. -/
theorem actionsOfBody_bodyOf {statements : List Statement}
    (wellFormed : ∀ statement ∈ statements, statement.WellFormed) :
    actionsOfBody (bodyOf statements) .source = statements.flatMap Statement.recognised ∧
      ((∀ statement ∈ statements, ¬ statement.EndsLikeAssertion) →
        actionsOfBody (bodyOf statements) .source = statements.flatMap Statement.actions) := by
  have recognised : actionsOfBody (bodyOf statements) .source =
      statements.flatMap Statement.recognised := by
    rw [actionsOfBody_source wellFormed, map_action_findingsFrom]
  refine ⟨recognised, fun plain => recognised.trans ?_⟩
  exact List.flatMap_congr fun statement member =>
    Statement.recognised_eq_actions (plain statement member)

/-- One statement of every form, with values that take escapes. -/
def everyForm : List Statement :=
  [.openPage "https://example.org/a b", .onElement ⟨.id, "user"⟩ (.sendKeys "say \"hi\"\\"),
    .onElement ⟨.name, "user"⟩ .clear, .onElement ⟨.cssSelector, "a; b"⟩ .click,
    .onElement ⟨.xpath, "//a[1]"⟩ .getText, .waitUntil "visible" ⟨.className, "done"⟩,
    .count ⟨.tagName, "li"⟩, .compareText "// line\n" ⟨.linkText, "next"⟩]

/-- A body with a statement of every form. -/
theorem actionsOfBody_bodyOf_everyForm :
    (∀ statement ∈ everyForm, statement.WellFormed ∧ ¬ statement.EndsLikeAssertion) ∧
      actionsOfBody (bodyOf everyForm) .source =
        [.navigate "https://example.org/a b", .fill "#user" "say \"hi\"\\",
          .clear "[name=\"user\"]", .click "a; b", .getText "xpath=//a[1]",
          .wait ".done" (some "visible"), .countElements "li",
          .assertText "text=\"next\"" "// line\n", .getText "text=\"next\""] := by
  have every : ∀ statement ∈ everyForm, statement.WellFormed ∧ ¬ statement.EndsLikeAssertion := by
    decide
  refine ⟨every, ?_⟩
  exact (actionsOfBody_bodyOf fun statement member => (every statement member).1).2
    fun statement member => (every statement member).2

/-- A condition may be taken for an assertion, so that what is recognised is not always just
what the statements stand for. -/
theorem not_actionsOfBody_bodyOf_actions :
    ¬ ∀ statements : List Statement, (∀ statement ∈ statements, statement.WellFormed) →
      actionsOfBody (bodyOf statements) .source = statements.flatMap Statement.actions := by
  intro claim
  have wellFormed : ∀ statement ∈ [Statement.waitUntil "assertTrue" ⟨.id, "a"⟩],
      statement.WellFormed := by
    decide
  have found := (actionsOfBody_source wellFormed).symm.trans (claim _ wellFormed)
  have lengths := congrArg List.length found
  cases lengths

end BrowserPlan
