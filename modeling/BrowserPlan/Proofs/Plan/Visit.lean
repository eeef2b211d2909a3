/-
This file says what the fresh addresses of a plan mean.

A run of actions is a series of visits: each navigation ends the visit to one page and starts the
visit to the next. An address is fresh at the end if a snapshot lasts that was taken during the last
visit to it, where a click and a wait put an end to every snapshot before them. What lowering keeps
is a set of addresses that is changed as it goes, so the proof follows the set along the visits: an
action changes it only where its own page is concerned, and of that page it knows exactly whether a
snapshot of the visit so far lasts.
-/

import BrowserPlan.Proofs.Plan.Snapshot

namespace BrowserPlan

/-! ### Snapshots that last -/

/-- Among the steps there is a snapshot with neither a click nor a wait behind it. If there is any
click or wait, the last snapshot stands behind the last of them. -/
def Lasting (steps : List Step) : Prop :=
  ∃ earlier snapshot between, steps = earlier ++ snapshot :: between ∧
    snapshot.isSnapshot = true ∧ ∀ step ∈ between, step.instruction.tool ∉ staleTools

theorem not_lasting_nil : ¬ Lasting [] := by
  rintro ⟨earlier, snapshot, between, equal, _⟩
  exact absurd equal (by simp)

theorem lasting_concat_snapshot (before : List Step) {step : Step}
    (snapshot : step.isSnapshot = true) : Lasting (before ++ [step]) :=
  ⟨before, step, [], rfl, snapshot, fun _ member => absurd member List.not_mem_nil⟩

theorem not_lasting_concat (before : List Step) {step : Step}
    (changes : step.instruction.tool ∈ staleTools) : ¬ Lasting (before ++ [step]) := by
  rintro ⟨earlier, snapshot, between, equal, taken, quiet⟩
  rcases split_concat equal with ⟨_, rfl⟩ | ⟨front, rfl, _⟩
  · exact absurd (staleTools_subset changes) (Step.tool_notMem_of_isSnapshot taken)
  · exact quiet step (List.mem_append_right front (List.mem_singleton_self step)) changes

/-- A step that is no snapshot, no click and no wait decides nothing. -/
theorem lasting_concat_iff (before : List Step) {step : Step} (other : step.isSnapshot = false)
    (calm : step.instruction.tool ∉ staleTools) : Lasting (before ++ [step]) ↔ Lasting before := by
  constructor
  · rintro ⟨earlier, snapshot, between, equal, taken, quiet⟩
    rcases split_concat equal with ⟨_, rfl⟩ | ⟨front, rfl, rfl⟩
    · rw [other] at taken
      cases taken
    · exact ⟨earlier, snapshot, front, rfl, taken,
        fun step member => quiet step (List.mem_append_left _ member)⟩
  · rintro ⟨earlier, snapshot, between, rfl, taken, quiet⟩
    refine ⟨earlier, snapshot, between ++ [step], by simp, taken, fun last member => ?_⟩
    rcases List.mem_append.mp member with member | member
    · exact quiet last member
    · rw [List.mem_singleton.mp member]
      exact calm

/-! ### What an action does to the set -/

/-- The page that an action is about: the one that it opens, and otherwise the current one. -/
def Action.page (target : PlanTarget) (view : PageView) : Action → Text
  | .navigate url => target.resolve url
  | _ => view.url

/-- The page stays unless another one is opened. -/
theorem Action.page_of_stays {action : Action} (stays : ∀ url, action ≠ .navigate url)
    (target : PlanTarget) (view : PageView) : action.page target view = view.url := by
  cases action with
  | navigate url => exact absurd rfl (stays url)
  | _ => rfl

theorem Action.stays_of_element {action : Action} (onElement : action.element?.isSome = true)
    (url : Text) : action ≠ .navigate url := by
  rintro rfl
  cases onElement

namespace PageView

theorem isFresh_iff (view : PageView) : view.isFresh = true ↔ view.url ∈ view.fresh :=
  List.contains_iff_mem

theorem mem_refreshed_of_ne {view : PageView} {url : Text} (other : url ≠ view.url) :
    url ∈ view.refreshed.fresh ↔ url ∈ view.fresh := by
  rw [refreshed, List.mem_insert_iff, or_iff_right other]

theorem mem_staled_of_ne {view : PageView} {url : Text} (other : url ≠ view.url) :
    url ∈ view.staled.fresh ↔ url ∈ view.fresh := by
  rw [staled, List.mem_filter, decide_eq_true_eq, and_iff_left other]

theorem url_ready (view : PageView) : view.ready.url = view.url := by
  rw [ready]
  split <;> rfl

/-- Getting ready leaves all other pages as they were. -/
theorem mem_ready_of_ne {view : PageView} {url : Text} (other : url ≠ view.url) :
    url ∈ view.ready.fresh ↔ url ∈ view.fresh := by
  rw [ready]
  split
  · exact Iff.rfl
  · exact mem_refreshed_of_ne other

theorem mem_freshUrls_iff (view : PageView) (url : Text) :
    url ∈ view.freshUrls ↔ url ∈ view.fresh := by
  rw [freshUrls, List.mem_mergeSort, List.mem_eraseDups]

end PageView

variable {target : PlanTarget} {view after : PageView} {action : Action} {steps : List Step}

/-- Lowering an action leads to its page. -/
theorem Lowers.url (shape : Lowers target view action after steps) :
    after.url = action.page target view := by
  cases shape with
  | page => rfl
  | element _ purpose step _ onElement carries effect =>
    rw [Action.page_of_stays (Action.stays_of_element onElement)]
    rcases effect with ⟨rfl, _⟩ | ⟨rfl, _⟩
    · exact view.url_ready
    · exact view.url_ready
  | plain _ step _ offElement carries stays effect =>
    rw [Action.page_of_stays stays]
    rcases effect with ⟨rfl, _⟩ | ⟨rfl, _⟩ <;> rfl

/-- An action leaves the freshness of every page alone but that of its own. -/
theorem Lowers.mem_fresh_of_ne (shape : Lowers target view action after steps) {url : Text}
    (other : url ≠ action.page target view) : url ∈ after.fresh ↔ url ∈ view.fresh := by
  cases shape with
  | page => exact PageView.mem_refreshed_of_ne other
  | element _ purpose step _ onElement carries effect =>
    rw [Action.page_of_stays (Action.stays_of_element onElement)] at other
    have ready := PageView.mem_ready_of_ne other
    rcases effect with ⟨rfl, _⟩ | ⟨rfl, _⟩
    · exact ready
    · rw [← view.url_ready] at other
      exact (PageView.mem_staled_of_ne other).trans ready
  | plain _ step _ offElement carries stays effect =>
    rw [Action.page_of_stays stays] at other
    rcases effect with ⟨rfl, _⟩ | ⟨rfl, _⟩
    · exact Iff.rfl
    · exact PageView.mem_staled_of_ne other

/-- If the current page is fresh exactly when a snapshot lasts, it is so behind an action that stays
on the page. -/
theorem Lowers.lasting_iff (shape : Lowers target view action after steps)
    (stays : ∀ url, action ≠ .navigate url) {before : List Step}
    (tracks : view.isFresh = true ↔ Lasting before) :
    after.isFresh = true ↔ Lasting (before ++ steps) := by
  cases shape with
  | page url => exact absurd rfl (stays url)
  | element _ purpose step _ onElement carries effect =>
    have ready : Lasting (before ++ view.snapshotBefore purpose) := by
      rw [PageView.snapshotBefore]
      split_ifs with fresh
      · rw [List.append_nil]
        exact tracks.mp fresh
      · exact lasting_concat_snapshot before rfl
    rw [← List.append_assoc]
    rcases effect with ⟨rfl, calm⟩ | ⟨rfl, changes⟩
    · rw [lasting_concat_iff _ carries.notSnapshot fun stale => calm (staleTools_subset stale)]
      exact iff_of_true view.isFresh_ready ready
    · exact iff_of_false (by rw [view.ready.isFresh_staled]; decide) (not_lasting_concat _ changes)
  | plain _ step _ offElement carries stays effect =>
    rcases effect with ⟨rfl, calm⟩ | ⟨rfl, changes⟩
    · rw [lasting_concat_iff _ carries.notSnapshot fun stale => calm (staleTools_subset stale)]
      exact tracks
    · exact iff_of_false (by rw [view.isFresh_staled]; decide) (not_lasting_concat _ changes)

/-- Behind a navigation its page is fresh, and the snapshot that was taken of it lasts. -/
theorem Lowers.lasting_of_navigate {url : Text}
    (shape : Lowers target view (.navigate url) after steps) :
    after.isFresh = true ∧ Lasting steps := by
  cases shape with
  | page _ step capture carries anonymous taken =>
    exact ⟨view.isFresh_opened _, lasting_concat_snapshot [step] taken⟩
  | element _ _ _ _ onElement => cases onElement
  | plain _ _ _ _ _ stays => exact absurd rfl (stays url)

/-! ### Visits -/

/-- A visit to a page: its address, and the steps that are emitted from the navigation that opens it
up to the next navigation. -/
structure Visit where
  url : Text
  steps : List Step

/-- The visits of a run of actions, of which the first goes on from a view and the given steps. -/
def visitsFrom (target : PlanTarget) (view : PageView) (steps : List Step) :
    List Action → List Visit
  | [] => [⟨view.url, steps⟩]
  | action :: actions =>
      let (next, more) := lower target view action
      if action.isNavigate then ⟨view.url, steps⟩ :: visitsFrom target next more actions
      else visitsFrom target next (steps ++ more) actions

/-- The visits of a test method. The first one is to no address and lasts until a page is opened. -/
def visits (target : PlanTarget) (actions : List Action) : List Visit :=
  visitsFrom target {} [] actions

/-- The visit is the last one to its page, and a snapshot lasts that was taken during it. -/
def EndsFresh (visits : List Visit) (url : Text) : Prop :=
  ∃ earlier visit later, visits = earlier ++ visit :: later ∧ visit.url = url ∧
    (∀ other ∈ later, other.url ≠ url) ∧ Lasting visit.steps

/-- The address of a navigation. -/
def Action.opened? (target : PlanTarget) : Action → Option Text
  | .navigate url => some (target.resolve url)
  | _ => none

theorem Action.isNavigate_iff (action : Action) :
    action.isNavigate = true ↔ ∃ url, action = .navigate url := by
  cases action <;> simp [isNavigate]

/-- The first visit does not matter to a page that is visited again. -/
theorem endsFresh_cons_of_visited {first : Visit} {rest : List Visit} {url : Text}
    (visited : ∃ visit ∈ rest, visit.url = url) :
    EndsFresh (first :: rest) url ↔ EndsFresh rest url := by
  constructor
  · rintro ⟨earlier, visit, later, equal, named, last, lasting⟩
    cases earlier with
    | nil =>
      obtain ⟨rfl, rfl⟩ := List.cons.inj equal
      obtain ⟨other, member, sameUrl⟩ := visited
      exact absurd sameUrl (last other member)
    | cons head earlier =>
      exact ⟨earlier, visit, later, (List.cons.inj equal).2, named, last, lasting⟩
  · rintro ⟨earlier, visit, later, rfl, named, last, lasting⟩
    exact ⟨first :: earlier, visit, later, rfl, named, last, lasting⟩

theorem endsFresh_cons_of_not_visited {first : Visit} {rest : List Visit} {url : Text}
    (notVisited : ∀ visit ∈ rest, visit.url ≠ url) :
    EndsFresh (first :: rest) url ↔ first.url = url ∧ Lasting first.steps := by
  constructor
  · rintro ⟨earlier, visit, later, equal, named, last, lasting⟩
    cases earlier with
    | nil =>
      obtain ⟨rfl, rfl⟩ := List.cons.inj equal
      exact ⟨named, lasting⟩
    | cons head earlier =>
      have member : visit ∈ rest := by
        rw [(List.cons.inj equal).2]
        exact List.mem_append_right _ List.mem_cons_self
      exact absurd named (notVisited visit member)
  · rintro ⟨named, lasting⟩
    exact ⟨[], first, rest, rfl, named, notVisited, lasting⟩

/-- The first visit goes on where the run starts. -/
theorem exists_visitsFrom_eq_cons (target : PlanTarget) (view : PageView) (steps : List Step)
    (actions : List Action) :
    ∃ all rest, visitsFrom target view steps actions = ⟨view.url, all⟩ :: rest := by
  induction actions generalizing view steps with
  | nil => exact ⟨steps, [], rfl⟩
  | cons action actions inductionHypothesis =>
    rw [visitsFrom]
    dsimp only
    split_ifs with navigates
    · exact ⟨steps, _, rfl⟩
    · obtain ⟨all, rest, equal⟩ := inductionHypothesis (lower target view action).1
        (steps ++ (lower target view action).2)
      have stays (url : Text) : action ≠ .navigate url := fun equal =>
        navigates (action.isNavigate_iff.mpr ⟨url, equal⟩)
      refine ⟨all, rest, ?_⟩
      rw [equal, (lowers target view action).url, Action.page_of_stays stays]

theorem EndsFresh.visited {visits : List Visit} {url : Text} (fresh : EndsFresh visits url) :
    ∃ visit ∈ visits, visit.url = url := by
  obtain ⟨earlier, visit, later, rfl, named, _⟩ := fresh
  exact ⟨visit, List.mem_append_right _ List.mem_cons_self, named⟩

/-- An address that no visit is to is not the one at which they start. -/
theorem ne_url_of_not_visited {steps : List Step} {actions : List Action} {url : Text}
    (notVisited : ∀ visit ∈ visitsFrom target view steps actions, visit.url ≠ url) :
    url ≠ view.url := by
  obtain ⟨all, rest, equal⟩ := exists_visitsFrom_eq_cons target view steps actions
  rw [equal] at notVisited
  exact (notVisited _ List.mem_cons_self).symm

/-- What is fresh behind a run: of an address that is visited the last visit decides, and any other
is fresh if it was so before. -/
theorem mem_fresh_lowerAll_iff {steps : List Step}
    (tracks : view.isFresh = true ↔ Lasting steps) (actions : List Action) (url : Text) :
    url ∈ (lowerAll target view actions).1.fresh ↔
      EndsFresh (visitsFrom target view steps actions) url ∨
        (∀ visit ∈ visitsFrom target view steps actions, visit.url ≠ url) ∧ url ∈ view.fresh := by
  induction actions generalizing view steps with
  | nil =>
    rw [visitsFrom, endsFresh_cons_of_not_visited (by simp), ← tracks, view.isFresh_iff]
    by_cases here : view.url = url
    · simp [lowerAll, here]
    · simp [lowerAll, here]
  | cons action actions inductionHypothesis =>
    have shape := lowers target view action
    have unchanged {more : List Step} (notVisited : ∀ visit ∈
        visitsFrom target (lower target view action).1 more actions, visit.url ≠ url) :
        url ∈ (lower target view action).1.fresh ↔ url ∈ view.fresh :=
      shape.mem_fresh_of_ne (shape.url ▸ ne_url_of_not_visited notVisited)
    rw [visitsFrom]
    dsimp only
    split_ifs with navigates
    · obtain ⟨page, rfl⟩ := action.isNavigate_iff.mp navigates
      obtain ⟨fresh, lasting⟩ := shape.lasting_of_navigate
      refine (inductionHypothesis (iff_of_true fresh lasting)).trans ?_
      by_cases visited : ∃ visit ∈ visitsFrom target (lower target view (.navigate page)).1
          (lower target view (.navigate page)).2 actions, visit.url = url
      · -- the last visit is among the later ones
        rw [endsFresh_cons_of_visited visited]
        obtain ⟨visit, member, named⟩ := visited
        exact or_congr_right (iff_of_false (fun others => others.1 visit member named)
          fun others => others.1 visit (List.mem_cons_of_mem _ member) named)
      · -- the visit that ends here is the last one, if it is to this address at all
        have notVisited : ∀ visit ∈ visitsFrom target (lower target view (.navigate page)).1
            (lower target view (.navigate page)).2 actions, visit.url ≠ url :=
          fun visit member named => visited ⟨visit, member, named⟩
        rw [endsFresh_cons_of_not_visited notVisited, or_iff_right fun ends => visited ends.visited,
          and_iff_right notVisited, unchanged notVisited, List.forall_mem_cons,
          and_iff_left notVisited, ← tracks, view.isFresh_iff]
        by_cases here : view.url = url
        · simp [here]
        · simp [here]
    · have stays (page : Text) : action ≠ .navigate page := fun equal =>
        navigates (action.isNavigate_iff.mpr ⟨page, equal⟩)
      refine (inductionHypothesis (shape.lasting_iff stays tracks)).trans ?_
      exact or_congr_right (and_congr_right unchanged)

/-! ### The visits share out the run -/

/-- There is one visit before all navigations and one for each of them. -/
theorem map_url_visitsFrom (target : PlanTarget) (view : PageView) (steps : List Step)
    (actions : List Action) :
    (visitsFrom target view steps actions).map Visit.url =
      view.url :: actions.filterMap (Action.opened? target) := by
  induction actions generalizing view steps with
  | nil => rfl
  | cons action actions inductionHypothesis =>
    have page := (lowers target view action).url
    rw [visitsFrom]
    dsimp only
    split_ifs with navigates
    · obtain ⟨url, rfl⟩ := action.isNavigate_iff.mp navigates
      rw [List.map_cons, inductionHypothesis, page]
      rfl
    · have stays (url : Text) : action ≠ .navigate url := fun equal =>
        navigates (action.isNavigate_iff.mpr ⟨url, equal⟩)
      have notOpened : action.opened? target = none := by
        cases action with
        | navigate url => exact absurd rfl (stays url)
        | _ => rfl
      rw [inductionHypothesis, page, Action.page_of_stays stays, List.filterMap_cons, notOpened]

/-- The visits share out the steps. -/
theorem flatMap_steps_visitsFrom (target : PlanTarget) (view : PageView) (steps : List Step)
    (actions : List Action) :
    (visitsFrom target view steps actions).flatMap Visit.steps =
      steps ++ (lowerAll target view actions).2 := by
  induction actions generalizing view steps with
  | nil => exact congrArg (steps ++ ·) rfl
  | cons action actions inductionHypothesis =>
    rw [visitsFrom, lowerAll_cons]
    dsimp only
    split_ifs
    · rw [List.flatMap_cons, inductionHypothesis]
    · rw [inductionHypothesis, List.append_assoc]

/-- The visits of a method share out its steps, one visit for each navigation and one to no address
before the first. An address is fresh at the end of the plan exactly when it is visited and a
snapshot lasts that is taken during the last visit to it. And no action changes the freshness of any
page but that of its own, which is the one that it opens or else the current one. -/
theorem mem_freshUrls_plan_iff (target : PlanTarget) (method : TestMethod) :
    (visits target method.actions).map Visit.url =
        [] :: method.actions.filterMap (Action.opened? target) ∧
      (visits target method.actions).flatMap Visit.steps =
        (lowerAll target {} method.actions).2 ∧
      (∀ url, url ∈ (method.plan target).freshUrls ↔
        ∃ earlier visit later, visits target method.actions = earlier ++ visit :: later ∧
          visit.url = url ∧ (∀ other ∈ later, other.url ≠ url) ∧ Lasting visit.steps) ∧
      ∀ (view : PageView) (action : Action) (url : Text), url ≠ action.page target view →
        (url ∈ (lower target view action).1.fresh ↔ url ∈ view.fresh) := by
  refine ⟨map_url_visitsFrom _ _ _ _, flatMap_steps_visitsFrom _ _ _ _, fun url => ?_,
    fun view action url => (lowers target view action).mem_fresh_of_ne⟩
  have tracks : ({} : PageView).isFresh = true ↔ Lasting [] :=
    iff_of_false (by decide) not_lasting_nil
  refine (PageView.mem_freshUrls_iff _ url).trans ((mem_fresh_lowerAll_iff tracks _ url).trans ?_)
  exact or_iff_left fun others => absurd others.2 List.not_mem_nil

end BrowserPlan
