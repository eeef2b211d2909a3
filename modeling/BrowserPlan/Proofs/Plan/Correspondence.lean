/-
This file proves that a plan does what its test method does: no action is lost, done twice or
done out of order.

A plan holds more steps than the method has actions: snapshots are put in between, and the base
address is opened first where the method opens no page. Without these the steps stand for the
actions one by one. A step that reads a text is carried out by the tool that takes snapshots,
but it is no snapshot of the plan and so stays.
-/

import BrowserPlan.Proofs.Plan.Step

namespace BrowserPlan

/-! ### Steps that stand for actions -/

/-- The step does something of its own and is no snapshot of the plan. -/
def Step.isPrimary (step : Step) : Bool :=
  !step.isSnapshot

/-- The step is not skipped and waits for no reference to an element. -/
def Step.IsBare (step : Step) : Prop :=
  step.isSkipped = false ∧ step.instruction.template? = none

theorem Step.isBare_of_isSnapshot {step : Step} (snapshot : step.isSnapshot = true) :
    step.IsBare := by
  rw [isSnapshot, decide_eq_true_eq] at snapshot
  rw [IsBare, isSkipped, snapshot]
  exact ⟨rfl, rfl⟩

theorem PageView.isSnapshot_snapshotBefore {view : PageView} {purpose : Text} {step : Step}
    (member : step ∈ view.snapshotBefore purpose) : step.isSnapshot = true := by
  unfold snapshotBefore at member
  split at member
  · exact absurd member List.not_mem_nil
  · rw [List.mem_singleton.mp member]
    rfl

/-- No inserted snapshot is a primary step. -/
theorem PageView.filter_snapshotBefore (view : PageView) (purpose : Text) :
    (view.snapshotBefore purpose).filter Step.isPrimary = [] := by
  rw [List.filter_eq_nil_iff]
  intro step member
  rw [Step.isPrimary, isSnapshot_snapshotBefore member]
  exact Bool.false_ne_true

/-- An action lowers to one step that stands for it, snapshots aside. -/
theorem Lowers.primary {target : PlanTarget} {view after : PageView} {action : Action}
    {steps : List Step} (shape : Lowers target view action after steps) :
    ∃ step, steps.filter Step.isPrimary = [step] ∧ step.CarriesOut target action := by
  cases shape with
  | page url step capture carries anonymous taken =>
    refine ⟨step, ?_, carries⟩
    simp [Step.isPrimary, carries.notSnapshot, taken]
  | element _ purpose step _ onElement carries =>
    refine ⟨step, ?_, carries⟩
    rw [List.filter_append, view.filter_snapshotBefore]
    simp [Step.isPrimary, carries.notSnapshot]
  | plain _ step _ offElement carries =>
    refine ⟨step, ?_, carries⟩
    simp [Step.isPrimary, carries.notSnapshot]

/-- Snapshots aside, the steps of a list of actions stand for the actions one by one. -/
theorem forall₂_lowerAll (target : PlanTarget) (view : PageView) (actions : List Action) :
    List.Forall₂ (fun action step => step.CarriesOut target action) actions
      ((lowerAll target view actions).2.filter Step.isPrimary) := by
  induction actions generalizing view with
  | nil => exact .nil
  | cons action actions inductionHypothesis =>
    obtain ⟨step, only, carries⟩ := (lowers target view action).primary
    rw [lowerAll_cons, List.filter_append, only, List.singleton_append]
    exact .cons carries (inductionHypothesis _)

/-- A step that belongs to no action is neither skipped nor waiting for an element. -/
theorem Lowers.isBare {target : PlanTarget} {view after : PageView} {action : Action}
    {steps : List Step} (shape : Lowers target view action after steps) {step : Step}
    (member : step ∈ steps) (anonymous : step.action? = none) : step.IsBare := by
  cases shape with
  | page url opening capture carries _ taken =>
    rcases List.mem_cons.mp member with rfl | member
    · refine ⟨?_, ?_⟩
      · exact Bool.eq_false_iff.mpr fun skipped => by
          obtain ⟨type, fields, equal⟩ := carries.skipped.mp skipped
          cases equal
      · exact Option.not_isSome_iff_eq_none.mp fun template =>
          Bool.false_ne_true (carries.template.mp template)
    · rw [List.mem_singleton.mp member]
      exact Step.isBare_of_isSnapshot taken
  | element _ purpose step _ onElement carries =>
    rcases List.mem_append.mp member with member | member
    · exact Step.isBare_of_isSnapshot (PageView.isSnapshot_snapshotBefore member)
    · have stays : ∀ url, action ≠ .navigate url := by
        intro url equal
        rw [equal] at onElement
        cases onElement
      rw [List.mem_singleton.mp member, carries.original stays] at anonymous
      cases anonymous
  | plain _ step _ offElement carries stays =>
    rw [List.mem_singleton.mp member, carries.original stays] at anonymous
    cases anonymous

/-- A step that names no action is neither skipped nor waiting for an element. -/
theorem isBare_lowerAll (target : PlanTarget) (view : PageView) (actions : List Action)
    {step : Step} (member : step ∈ (lowerAll target view actions).2)
    (anonymous : step.action? = none) : step.IsBare := by
  induction actions generalizing view with
  | nil => exact absurd member List.not_mem_nil
  | cons action actions inductionHypothesis =>
    rw [lowerAll_cons] at member
    rcases List.mem_append.mp member with member | member
    · exact (lowers target view action).isBare member anonymous
    · exact inductionHypothesis _ member

/-! ### The steps that open the base address -/

/-- The page is opened first if there is anything to do and nothing else opens one. -/
theorem needsOpening_iff (actions : List Action) :
    needsOpening actions = true ↔ actions ≠ [] ∧ ∀ url, Action.navigate url ∉ actions := by
  have navigates : actions.any Action.isNavigate = true ↔ ∃ url, Action.navigate url ∈ actions := by
    rw [List.any_eq_true]
    constructor
    · rintro ⟨action, member, isNavigate⟩
      cases action with
      | navigate url => exact ⟨url, member⟩
      | _ => exact absurd isNavigate Bool.false_ne_true
    · rintro ⟨url, member⟩
      exact ⟨_, member, rfl⟩
  rw [needsOpening, Bool.and_eq_true, Bool.not_eq_true', Bool.not_eq_true',
    ← Bool.not_eq_true (actions.any _), navigates, not_exists]
  simp

/-- The first step of an action is no navigation, or its note is that of a page that the test
opens. -/
theorem Lowers.head {target : PlanTarget} {view after : PageView} {action : Action}
    {steps : List Step} (shape : Lowers target view action after steps) :
    ∃ first rest, steps = first :: rest ∧
      ((∃ tail : Text, first.note = 'N' :: tail) ∨
        first.instruction.tool ≠ ("browser_navigate" : Text)) := by
  cases shape with
  | page url step capture carries anonymous taken notInserted bare opener =>
    exact ⟨step, [capture], rfl, Or.inl opener⟩
  | element _ purpose step _ onElement carries effect =>
    cases before : view.snapshotBefore purpose with
    | nil =>
      refine ⟨step, [], rfl, Or.inr fun navigates => ?_⟩
      rw [navigates] at effect
      exact absurd effect (by simp [pageTools, staleTools])
    | cons snapshot others =>
      refine ⟨snapshot, others ++ [step], rfl, Or.inr fun navigates => ?_⟩
      have taken := view.isSnapshot_snapshotBefore (before ▸ List.mem_cons_self)
      have quiet := Step.tool_notMem_of_isSnapshot taken
      rw [navigates] at quiet
      exact quiet (by decide)
  | plain _ step _ offElement carries stays effect =>
    refine ⟨step, [], rfl, Or.inr fun navigates => ?_⟩
    rw [navigates] at effect
    exact absurd effect (by simp [pageTools, staleTools])

/-- Lowering by itself never starts with the steps that open the base address. -/
theorem not_openingSteps_isPrefix (target : PlanTarget) (view : PageView)
    (actions : List Action) :
    ¬ Step.numbered 1 (openingSteps target) <+:
      Step.numbered 1 (lowerAll target view actions).2 := by
  cases actions with
  | nil => exact fun opens => absurd (List.prefix_nil.mp opens) (List.cons_ne_nil _ _)
  | cons action actions =>
    obtain ⟨first, rest, equal, different⟩ := (lowers target view action).head
    rw [lowerAll_cons, equal, List.cons_append]
    intro opens
    have same := (List.cons_prefix_cons.mp opens).1
    rcases different with ⟨tail, note⟩ | tool
    · have sameNote := (Step.mk.inj same).2.1
      rw [note] at sameNote
      exact absurd (List.cons.inj sameNote).1 (by decide)
    · exact tool (congrArg (fun step => step.instruction.tool) same).symm

/-! ### Whole plans -/

theorem Step.CarriesOut.numbered {target : PlanTarget} {action : Action} {step : Step}
    (carries : step.CarriesOut target action) (number : Nat) :
    Step.CarriesOut target action { step with number } where
  page := carries.page
  original := carries.original
  skipped := carries.skipped
  template := carries.template
  element := carries.element
  notSnapshot := carries.notSnapshot

/-- Numbering leaves the primary steps with their actions. -/
theorem forall₂_numbered {target : PlanTarget} {actions : List Action} {steps : List Step}
    (first : Nat)
    (carried : List.Forall₂ (fun action step => step.CarriesOut target action) actions
      (steps.filter Step.isPrimary)) :
    List.Forall₂ (fun action step => step.CarriesOut target action) actions
      ((Step.numbered first steps).filter Step.isPrimary) := by
  induction steps generalizing first actions with
  | nil => exact carried
  | cons step steps inductionHypothesis =>
    rw [Step.numbered, List.filter_cons]
    rw [List.filter_cons] at carried
    cases primary : step.isPrimary with
    | false =>
      rw [primary, if_neg Bool.false_ne_true] at carried
      rw [show Step.isPrimary { step with number := first } = false from primary,
        if_neg Bool.false_ne_true]
      exact inductionHypothesis _ carried
    | true =>
      rw [primary, if_pos rfl] at carried
      rw [show Step.isPrimary { step with number := first } = true from primary, if_pos rfl]
      cases carried with
      | cons carries rest => exact .cons (carries.numbered first) (inductionHypothesis _ rest)

theorem isBare_numbered {steps : List Step} (first : Nat)
    (bare : ∀ step ∈ steps, step.action? = none → step.IsBare) :
    ∀ step ∈ Step.numbered first steps, step.action? = none → step.IsBare := by
  induction steps generalizing first with
  | nil => exact bare
  | cons step steps inductionHypothesis =>
    intro other member anonymous
    rcases List.mem_cons.mp member with rfl | member
    · exact bare step List.mem_cons_self anonymous
    · exact inductionHypothesis (first + 1)
        (fun step member => bare step (List.mem_cons_of_mem _ member)) other member anonymous

/-- The steps of a plan: those that open the base address, if they are needed, and those of the
actions. -/
theorem TestMethod.steps_plan (target : PlanTarget) (method : TestMethod) :
    (method.plan target).steps =
      Step.numbered 1 ((if needsOpening method.actions then openingSteps target else []) ++
        (lowerAll target {} method.actions).2) :=
  rfl

theorem isBare_plan (target : PlanTarget) (method : TestMethod) :
    ∀ step ∈ (method.plan target).steps, step.action? = none → step.IsBare := by
  refine isBare_numbered 1 fun step member anonymous => ?_
  rcases List.mem_append.mp member with member | member
  · split at member
    · rcases List.mem_cons.mp member with rfl | member
      · exact ⟨rfl, rfl⟩
      · rw [List.mem_singleton.mp member]
        exact ⟨rfl, rfl⟩
    · exact absurd member List.not_mem_nil
  · exact isBare_lowerAll target {} method.actions member anonymous

/-- The steps of a plan behind those that open the base address. -/
def MethodPlan.ownSteps (plan : MethodPlan) (actions : List Action) : List Step :=
  plan.steps.drop (if needsOpening actions then 2 else 0)

/-- Apart from the opening, the steps of a plan are those of its actions. -/
theorem ownSteps_plan (target : PlanTarget) (method : TestMethod) :
    ∃ first, (method.plan target).ownSteps method.actions =
      Step.numbered first (lowerAll target {} method.actions).2 := by
  rw [MethodPlan.ownSteps, TestMethod.steps_plan]
  split
  · exact ⟨3, by rw [Step.numbered_append]; rfl⟩
  · exact ⟨1, rfl⟩

/-- A plan starts with the steps that open the base address exactly if its method has actions
and none of them opens a page. Behind these steps, snapshots aside, the steps stand for the
actions one by one and in order. A step that stands for no action, or names none because it
opens a page, is neither skipped nor waiting for an element. The numbers run from one on
without a gap. -/
theorem plan_corresponds (target : PlanTarget) (method : TestMethod) :
    (Step.numbered 1 (openingSteps target) <+: (method.plan target).steps ↔
      method.actions ≠ [] ∧ ∀ url, Action.navigate url ∉ method.actions) ∧
    List.Forall₂ (fun action step => step.CarriesOut target action) method.actions
      (((method.plan target).ownSteps method.actions).filter fun step => !step.isSnapshot) ∧
    (∀ step ∈ (method.plan target).steps, step.action? = none →
      step.isSkipped = false ∧ step.instruction.template? = none) ∧
    (method.plan target).steps.map Step.number =
      List.range' 1 (method.plan target).steps.length := by
  refine ⟨?_, ?_, isBare_plan target method, ?_⟩
  · rw [← needsOpening_iff, TestMethod.steps_plan]
    by_cases needs : needsOpening method.actions = true
    · rw [if_pos needs, Step.numbered_append]
      exact iff_of_true (List.prefix_append _ _) needs
    · rw [if_neg needs, List.nil_append]
      exact iff_of_false (not_openingSteps_isPrefix target {} method.actions) needs
  · obtain ⟨first, equal⟩ := ownSteps_plan target method
    rw [equal]
    exact forall₂_numbered first (forall₂_lowerAll target {} method.actions)
  · rw [TestMethod.steps_plan, Step.map_number_numbered, Step.length_numbered]

end BrowserPlan
