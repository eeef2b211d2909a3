/-
This file proves that lowering sees one bit of what is known about the page.

A view holds an address and a set of addresses, and sets with addresses of pages that were left long
ago are among them. But lowering asks no more than whether the current page is fresh, and what it
makes of the view leaves the answer to that to the answer before. So two views with one answer are
told apart by no list of actions, and a navigation, behind which the answer is always yes, cuts
everything off that came before it.
-/

import BrowserPlan.Proofs.Plan.Snapshot

namespace BrowserPlan

variable {first second : PageView}

/-! ### One action -/

/-- Whether a snapshot is inserted depends on freshness alone. -/
theorem PageView.snapshotBefore_eq_of_isFresh (same : first.isFresh = second.isFresh)
    (purpose : Text) : first.snapshotBefore purpose = second.snapshotBefore purpose := by
  rw [snapshotBefore, snapshotBefore, same]

/-- Lowering an action emits the same steps from views that are both fresh or both stale. -/
theorem lower_eq_of_isFresh (same : first.isFresh = second.isFresh) (target : PlanTarget)
    (action : Action) : (lower target first action).2 = (lower target second action).2 := by
  have before := PageView.snapshotBefore_eq_of_isFresh same
  cases action with
  | fill | clear | click | getText => exact congrArg (· ++ _) (before _)
  | navigate | wait | assertText | assertTrue | assertFalse | countElements | unknown => rfl

/-- Lowering an action keeps two views both fresh or both stale. -/
theorem isFresh_lower_eq (same : first.isFresh = second.isFresh) (target : PlanTarget)
    (action : Action) :
    (lower target first action).1.isFresh = (lower target second action).1.isFresh := by
  cases action with
  | navigate url =>
    exact (first.isFresh_opened _).trans (second.isFresh_opened _).symm
  | fill | clear | getText => exact first.isFresh_ready.trans second.isFresh_ready.symm
  | click => exact first.ready.isFresh_staled.trans second.ready.isFresh_staled.symm
  | wait => exact first.isFresh_staled.trans second.isFresh_staled.symm
  | assertText | assertTrue | assertFalse | countElements | unknown => exact same

/-! ### Lists of actions -/

/-- Later actions are lowered from the view that the earlier ones leave. -/
theorem lowerAll_append (target : PlanTarget) (view : PageView) (before after : List Action) :
    (lowerAll target view (before ++ after)).2 =
      (lowerAll target view before).2 ++
        (lowerAll target (lowerAll target view before).1 after).2 := by
  induction before generalizing view with
  | nil => rfl
  | cons action before inductionHypothesis =>
    rw [List.cons_append, lowerAll_cons, lowerAll_cons, inductionHypothesis, List.append_assoc]
    rfl

theorem fst_lowerAll_append (target : PlanTarget) (view : PageView) (before after : List Action) :
    (lowerAll target view (before ++ after)).1 =
      (lowerAll target (lowerAll target view before).1 after).1 := by
  induction before generalizing view with
  | nil => rfl
  | cons action before inductionHypothesis => exact inductionHypothesis _

/-- Lowering a list of actions emits the same steps from views that are both fresh or both stale,
and keeps them so. -/
theorem lowerAll_eq_of_isFresh (same : first.isFresh = second.isFresh) (target : PlanTarget)
    (actions : List Action) :
    (lowerAll target first actions).2 = (lowerAll target second actions).2 ∧
      (lowerAll target first actions).1.isFresh = (lowerAll target second actions).1.isFresh := by
  induction actions generalizing first second with
  | nil => exact ⟨rfl, same⟩
  | cons action actions inductionHypothesis =>
    obtain ⟨steps, ends⟩ := inductionHypothesis (isFresh_lower_eq same target action)
    refine ⟨?_, ends⟩
    rw [lowerAll_cons, lowerAll_cons, lower_eq_of_isFresh same target action, steps]

/-- A step for an element tells a fresh view from a stale one. -/
theorem length_lower_getText (target : PlanTarget) (view : PageView) (selector : Text) :
    (lower target view (.getText selector)).2.length = if view.isFresh then 1 else 2 := by
  show (view.snapshotBefore _ ++ [_]).length = _
  rw [PageView.snapshotBefore]
  split <;> rfl

/-- Views from which every list of actions is lowered to the same steps are both fresh or both
stale. -/
theorem isFresh_eq_of_lowerAll (target : PlanTarget)
    (alike : ∀ actions, (lowerAll target first actions).2 = (lowerAll target second actions).2) :
    first.isFresh = second.isFresh := by
  have steps := alike [.getText []]
  rw [lowerAll_cons, lowerAll_cons] at steps
  have lengths := congrArg List.length (List.append_cancel_right steps)
  rw [length_lower_getText, length_lower_getText] at lengths
  cases fresh : first.isFresh <;> cases other : second.isFresh <;> simp_all

/-- The steps of a navigation and of what follows it are the same in every view. -/
theorem lowerAll_navigate (target : PlanTarget) (url : Text) (after : List Action) :
    (lowerAll target first (.navigate url :: after)).2 =
      (lowerAll target second (.navigate url :: after)).2 := by
  have fresh : (lower target first (.navigate url)).1.isFresh =
      (lower target second (.navigate url)).1.isFresh :=
    (first.isFresh_opened _).trans (second.isFresh_opened _).symm
  rw [lowerAll_cons, lowerAll_cons, (lowerAll_eq_of_isFresh fresh target after).1]
  rfl

/-- Lowering sees no more of a view than whether its page is fresh. Two views that agree on that,
and no others, are lowered to the same steps by every list of actions, and they agree on it again
behind them. In particular nothing that comes before a navigation has a part in the steps from the
navigation on. -/
theorem lowering_sees_freshness_alone (target : PlanTarget) :
    (∀ first second : PageView,
      first.isFresh = second.isFresh ↔
        ∀ actions, (lowerAll target first actions).2 = (lowerAll target second actions).2) ∧
      (∀ (first second : PageView) (actions : List Action),
        first.isFresh = second.isFresh →
          (lowerAll target first actions).1.isFresh =
            (lowerAll target second actions).1.isFresh) ∧
      ∀ (url : Text) (after : List Action), ∃ steps, ∀ (view : PageView) (before : List Action),
        (lowerAll target view (before ++ .navigate url :: after)).2 =
          (lowerAll target view before).2 ++ steps := by
  refine ⟨fun first second => ⟨fun same actions => ?_, isFresh_eq_of_lowerAll target⟩,
    fun first second actions same => (lowerAll_eq_of_isFresh same target actions).2,
    fun url after => ⟨(lowerAll target {} (.navigate url :: after)).2, fun view before => ?_⟩⟩
  · exact (lowerAll_eq_of_isFresh same target actions).1
  · rw [lowerAll_append, lowerAll_navigate]

/-- A view that was left with the snapshots of two other pages, one of which is opened again. -/
theorem lowering_sees_freshness_alone_of_leftPages :
    let left : PageView := { url := "/cart", fresh := ["/", "/login"] }
    let actions : List Action := [.click "#buy", .navigate "/login", .getText ".total"]
    left.isFresh = ({} : PageView).isFresh ∧
      (lowerAll { baseUrl := "/" } left actions).2 = (lowerAll { baseUrl := "/" } {} actions).2 ∧
      (lowerAll { baseUrl := "/" } left actions).1.isFresh =
        (lowerAll { baseUrl := "/" } {} actions).1.isFresh := by
  intro left actions
  have same : left.isFresh = ({} : PageView).isFresh := by decide
  obtain ⟨steps, ends, _⟩ := lowering_sees_freshness_alone { baseUrl := "/" }
  exact ⟨same, (steps left {}).mp same actions, ends left {} actions same⟩

end BrowserPlan
