/-
This file proves that an action which neither needs a snapshot nor touches the page does not disturb
the actions around it.

An assertion, a count of elements and an action of an unknown kind lower to one step and hand the
view on as they found it. So if such an action is put into a list, everything behind it is lowered
from the same view as before: its own step comes in, and the other steps change nothing but their
numbers, the snapshots among them included. The steps that open the base address are decided on over
the whole list, and an action that opens no page has no say in that unless it is alone.
-/

import BrowserPlan.Proofs.Plan.Correspondence
import BrowserPlan.Proofs.Plan.Freshness

namespace BrowserPlan

/-! ### Inert actions -/

/-- An action that needs no snapshot and leaves everything that is known about the page alone. -/
def Action.IsInert : Action → Prop
  | .unknown _ _ | .assertText _ _ | .assertTrue _ | .assertFalse _ | .countElements _ => True
  | _ => False

variable {action : Action}

theorem Action.IsInert.stays (inert : action.IsInert) (url : Text) : action ≠ .navigate url := by
  rintro rfl
  exact inert

/-- An inert action lowers to the step that carries it out, and the view stays what it was. -/
theorem Action.IsInert.exists_lower (inert : action.IsInert) (target : PlanTarget)
    (view : PageView) :
    ∃ step, lower target view action = (view, [step]) ∧ step.CarriesOut target action := by
  cases action with
  | assertText | assertTrue | assertFalse | countElements | unknown =>
    exact ⟨_, rfl, carriesOut_plain rfl (by simp) _ _ _ rfl (by simp) (by simp)⟩
  | navigate | click | fill | clear | getText | wait => exact inert.elim

/-! ### An inert action between others -/

/-- An inert action adds its step behind those of the actions before it, and whatever follows is
lowered as it is without the action. -/
theorem Action.IsInert.exists_lowerAll (inert : action.IsInert) (target : PlanTarget)
    (view : PageView) (before after : List Action) :
    ∃ step, step.CarriesOut target action ∧
      (lowerAll target view (before ++ action :: after)).2 =
        (lowerAll target view before).2 ++
          step :: (lowerAll target (lowerAll target view before).1 after).2 ∧
      (lowerAll target view (before ++ action :: after)).1 =
        (lowerAll target view (before ++ after)).1 := by
  obtain ⟨step, lowered, carries⟩ := inert.exists_lower target (lowerAll target view before).1
  refine ⟨step, carries, ?_, ?_⟩
  · rw [lowerAll_append, lowerAll_cons, lowered]
    rfl
  · rw [fst_lowerAll_append, fst_lowerAll_append, lowerAll, lowered]

/-- Beside other actions an inert one does not decide whether the base address is opened. -/
theorem Action.IsInert.needsOpening_eq (inert : action.IsInert) {before after : List Action}
    (others : before ++ after ≠ []) :
    needsOpening (before ++ action :: after) = needsOpening (before ++ after) := by
  rw [Bool.eq_iff_iff, needsOpening_iff, needsOpening_iff, and_iff_right others,
    and_iff_right (List.append_ne_nil_of_right_ne_nil before (List.cons_ne_nil action after))]
  simp only [List.mem_append, List.mem_cons, (inert.stays _).symm, false_or]

/-! ### Plans with and without an inert action -/

/-- What a plan is with an action between two others and without it: the action has one step of its
own, which stands between the steps for the actions before it and those for the actions behind it,
and the rest of the plan differs in nothing but the numbers. -/
structure AddsOneStep (target : PlanTarget) (name : Text) (before : List Action) (action : Action)
    (after : List Action) : Prop where
  steps : ∃ front step back,
    (TestMethod.plan target ⟨name, before ++ action :: after⟩).steps =
        Step.numbered 1 (front ++ step :: back) ∧
      (TestMethod.plan target ⟨name, before ++ after⟩).steps = Step.numbered 1 (front ++ back) ∧
      step.action? = some action ∧ step.CarriesOut target action ∧
      List.Forall₂ (fun action step => step.CarriesOut target action) before
        ((front.drop (if needsOpening (before ++ after) then 2 else 0)).filter
          fun step => !step.isSnapshot) ∧
      List.Forall₂ (fun action step => step.CarriesOut target action) after
        (back.filter fun step => !step.isSnapshot)
  length :
    (TestMethod.plan target ⟨name, before ++ action :: after⟩).steps.length =
      (TestMethod.plan target ⟨name, before ++ after⟩).steps.length + 1
  freshUrls :
    (TestMethod.plan target ⟨name, before ++ action :: after⟩).freshUrls =
      (TestMethod.plan target ⟨name, before ++ after⟩).freshUrls

/-- An inert action that is put anywhere among other actions adds one step to their plan, its own,
and changes nothing else: neither the other steps, inserted snapshots and the opening of the base
address included, nor which addresses are fresh at the end. -/
theorem plan_insert_inert (target : PlanTarget) (name : Text) {before after : List Action}
    (others : before ++ after ≠ []) {action : Action} (inert : action.IsInert) :
    AddsOneStep target name before action after := by
  obtain ⟨step, carries, lowered, view⟩ := inert.exists_lowerAll target {} before after
  have withAction : (TestMethod.plan target ⟨name, before ++ action :: after⟩).steps =
      Step.numbered 1 ((if needsOpening (before ++ after) then openingSteps target else []) ++
        (lowerAll target {} before).2 ++
          step :: (lowerAll target (lowerAll target {} before).1 after).2) := by
    rw [TestMethod.steps_plan, inert.needsOpening_eq others, lowered, List.append_assoc]
  have without : (TestMethod.plan target ⟨name, before ++ after⟩).steps =
      Step.numbered 1 ((if needsOpening (before ++ after) then openingSteps target else []) ++
        (lowerAll target {} before).2 ++
          (lowerAll target (lowerAll target {} before).1 after).2) := by
    rw [TestMethod.steps_plan, lowerAll_append, List.append_assoc]
  refine ⟨⟨_, step, _, withAction, without, carries.original inert.stays, carries, ?_,
    forall₂_lowerAll target _ after⟩, ?_, congrArg PageView.freshUrls view⟩
  · have own := forall₂_lowerAll target {} before
    split_ifs <;> exact own
  · rw [withAction, without, Step.length_numbered, Step.length_numbered]
    simp only [List.length_append, List.length_cons, Nat.add_assoc]

/-- An action of an unknown kind that stands behind another one just like it, where the snapshot of
the page is stale. -/
theorem plan_insert_inert_behind_click :
    let hover : Action := .unknown "hover" [("selector", .string "#menu")]
    [.click "#menu", hover] ++ [.getText "#item"] ≠ [] ∧ hover.IsInert ∧
      AddsOneStep { baseUrl := "/" } "menu" [.click "#menu", hover] hover [.getText "#item"] := by
  intro hover
  have others : [.click "#menu", hover] ++ [.getText "#item"] ≠ [] := List.cons_ne_nil _ _
  exact ⟨others, trivial, plan_insert_inert { baseUrl := "/" } "menu" others trivial⟩

end BrowserPlan
