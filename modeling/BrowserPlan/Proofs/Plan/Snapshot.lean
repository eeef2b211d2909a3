/-
This file proves that a plan never uses a stale snapshot and takes none that it does not need.

What lowering knows about the page is a set of addresses; what makes a snapshot valid is a fact
about places in the list of steps. The two are tied by an invariant over the steps emitted so
far: where the current page counts as fresh there is a snapshot with no change of the page
behind it, and where it does not the last snapshot is stale. The steps that open the base
address are the only ones that lowering knows nothing about, so the first snapshot it inserts
behind them may be one too many.
-/

import BrowserPlan.Proofs.Plan.Step

namespace BrowserPlan

/-! ### Snapshots that hold and snapshots that do not -/

/-- Among the steps before there is a snapshot with no change of the page behind it. -/
def Covered (before : List Step) : Prop :=
  ∃ earlier snapshot between, before = earlier ++ snapshot :: between ∧
    snapshot.isSnapshot = true ∧ ∀ step ∈ between, step.instruction.tool ∉ pageTools

/-- Behind the latest snapshot, if there is one, stands a step that makes it stale. -/
def Stale (before : List Step) : Prop :=
  ∀ earlier snapshot between, before = earlier ++ snapshot :: between →
    snapshot.isSnapshot = true → (∀ step ∈ between, step.isSnapshot = false) →
    ∃ step ∈ between, step.instruction.tool ∈ staleTools

/-- What a plan promises of a step with the given steps before it: if it refers to an element
there is a snapshot that holds, and if it is an inserted snapshot the latest one is stale. The
exception is the first inserted snapshot of a plan that opens the base address by itself. -/
structure Supported (opened : Prop) (before : List Step) (step : Step) : Prop where
  covered : step.instruction.template?.isSome = true → Covered before
  needed : step.IsInserted →
    Stale before ∨ opened ∧ ∀ earlier ∈ before, ¬ earlier.IsInserted

/-- Something holds of every step and the steps before it. -/
def EveryStep (holds : List Step → Step → Prop) (steps : List Step) : Prop :=
  ∀ before step after, steps = before ++ step :: after → holds before step

theorem split_concat {steps earlier between : List Step} {last step : Step}
    (equal : steps ++ [last] = earlier ++ step :: between) :
    between = [] ∧ step = last ∨
      ∃ front, between = front ++ [last] ∧ steps = earlier ++ step :: front := by
  rcases List.eq_nil_or_concat between with rfl | ⟨front, final, rfl⟩
  · exact Or.inl ⟨rfl, (List.cons.inj (List.append_inj' equal rfl).2).1.symm⟩
  · rw [List.concat_eq_append, ← List.cons_append, ← List.append_assoc] at equal
    obtain ⟨same, sameLast⟩ := List.append_inj' equal rfl
    exact Or.inr ⟨front, by rw [List.concat_eq_append, (List.cons.inj sameLast).1], same⟩

/-- Right behind a snapshot the page is covered. -/
theorem covered_concat_snapshot (before : List Step) {step : Step}
    (snapshot : step.isSnapshot = true) : Covered (before ++ [step]) :=
  ⟨before, step, [], rfl, snapshot, fun _ member => absurd member List.not_mem_nil⟩

/-- A step that leaves the page alone keeps it covered. -/
theorem Covered.concat {before : List Step} (covered : Covered before) {step : Step}
    (calm : step.instruction.tool ∉ pageTools) : Covered (before ++ [step]) := by
  obtain ⟨earlier, snapshot, between, rfl, taken, quiet⟩ := covered
  refine ⟨earlier, snapshot, between ++ [step], by simp, taken, fun other member => ?_⟩
  rcases List.mem_append.mp member with member | member
  · exact quiet other member
  · rw [List.mem_singleton.mp member]
    exact calm

theorem stale_nil : Stale [] := by
  intro earlier snapshot between equal
  exact absurd equal (by simp)

/-- Right behind a step that changes the page it is stale. -/
theorem stale_concat_of_staleTools (before : List Step) {step : Step}
    (changes : step.instruction.tool ∈ staleTools) : Stale (before ++ [step]) := by
  intro earlier snapshot between equal taken _
  rcases split_concat equal with ⟨_, rfl⟩ | ⟨front, rfl, _⟩
  · exact absurd (staleTools_subset changes) (Step.tool_notMem_of_isSnapshot taken)
  · exact ⟨step, List.mem_append_right front (List.mem_singleton_self step), changes⟩

/-- Only a snapshot ends staleness. -/
theorem Stale.concat {before : List Step} (stale : Stale before) {step : Step}
    (other : step.isSnapshot = false) : Stale (before ++ [step]) := by
  intro earlier snapshot between equal taken latest
  rcases split_concat equal with ⟨_, rfl⟩ | ⟨front, rfl, rfl⟩
  · rw [other] at taken
    exact absurd taken Bool.false_ne_true
  · obtain ⟨change, member, changes⟩ := stale earlier snapshot front rfl taken
      fun between member => latest between (List.mem_append_left _ member)
    exact ⟨change, List.mem_append_left _ member, changes⟩

/-! ### Every step of a list -/

theorem everyStep_nil (holds : List Step → Step → Prop) : EveryStep holds [] := by
  intro before step after equal
  exact absurd equal (by simp)

/-- What holds of every step of two parts, the first ahead of the second, holds of every step of
both. -/
theorem everyStep_append {holds : List Step → Step → Prop} {first second : List Step}
    (left : EveryStep holds first)
    (right : EveryStep (fun before step => holds (first ++ before) step) second) :
    EveryStep holds (first ++ second) := by
  intro before step after equal
  rcases List.append_eq_append_iff.mp equal with ⟨front, rfl, found⟩ | ⟨front, rfl, found⟩
  · exact right front step after found
  · cases front with
    | nil =>
      have found' := right [] step after (by simpa using found.symm)
      simpa using found'
    | cons head front =>
      rw [(List.cons.inj found).1]
      exact left before head front rfl

theorem everyStep_singleton {holds : List Step → Step → Prop} {step : Step}
    (first : holds [] step) : EveryStep holds [step] := by
  intro before other after equal
  cases before with
  | nil => rwa [← (List.cons.inj equal).1]
  | cons head before => exact absurd (List.cons.inj equal).2.symm (by simp)

/-! ### The invariant of lowering -/

/-- What lowering knows about the page agrees with the steps emitted so far. -/
structure Tracks (opened : Prop) (before : List Step) (view : PageView) : Prop where
  fresh : view.isFresh = true → Covered before
  stale : view.isFresh = false →
    Stale before ∨ opened ∧ ∀ earlier ∈ before, ¬ earlier.IsInserted

theorem PageView.isFresh_refreshed (view : PageView) : view.refreshed.isFresh = true := by
  simp [isFresh, refreshed]

theorem PageView.isFresh_opened (view : PageView) (url : Text) :
    (view.opened url).isFresh = true :=
  isFresh_refreshed _

theorem PageView.isFresh_staled (view : PageView) : view.staled.isFresh = false := by
  simp [isFresh, staled]

theorem PageView.isFresh_ready (view : PageView) : view.ready.isFresh = true := by
  rw [ready]
  split
  · assumption
  · exact isFresh_refreshed view

theorem tracks_of_covered {opened : Prop} {before : List Step} {view : PageView}
    (fresh : view.isFresh = true) (covered : Covered before) : Tracks opened before view where
  fresh _ := covered
  stale stale := by rw [fresh] at stale; cases stale

theorem tracks_of_stale {opened : Prop} {before : List Step} {view : PageView}
    (notFresh : view.isFresh = false) (stale : Stale before) : Tracks opened before view where
  fresh fresh := by rw [notFresh] at fresh; cases fresh
  stale _ := Or.inl stale

/-- A step without a template that is no snapshot of lowering is supported anywhere. -/
theorem supported_of_bare {opened : Prop} {before : List Step} {step : Step}
    (bare : step.instruction.template?.isSome = false) (notInserted : ¬ step.IsInserted) :
    Supported opened before step where
  covered template := by rw [bare] at template; cases template
  needed inserted := absurd inserted notInserted

/-- The step that carries an action out is supported where there is a snapshot that holds. -/
theorem Step.CarriesOut.supported {opened : Prop} {before : List Step} {target : PlanTarget}
    {action : Action} {step : Step} (carries : step.CarriesOut target action)
    (covered : action.element?.isSome = true → Covered before) :
    Supported opened before step where
  covered template := covered (carries.template.mp template)
  needed inserted := absurd inserted (Step.not_isInserted_of_instruction carries.notSnapshot)

variable {opened : Prop} {before : List Step} {view : PageView}

/-- The snapshot before a step for an element is needed, and behind it the step is covered. -/
theorem Tracks.snapshotBefore (tracks : Tracks opened before view) (purpose : Text) :
    EveryStep (fun new step => Supported opened (before ++ new) step)
        (view.snapshotBefore purpose) ∧
      Covered (before ++ view.snapshotBefore purpose) := by
  unfold PageView.snapshotBefore
  split
  · rename_i fresh
    rw [List.append_nil]
    exact ⟨everyStep_nil _, tracks.fresh fresh⟩
  · rename_i notFresh
    refine ⟨everyStep_singleton ?_, covered_concat_snapshot before rfl⟩
    rw [List.append_nil]
    exact ⟨fun template => absurd template Bool.false_ne_true,
      fun _ => tracks.stale (Bool.eq_false_iff.mpr notFresh)⟩

/-- A step that changes nothing about the page keeps the invariant. -/
theorem Tracks.concat (tracks : Tracks opened before view) {step : Step}
    (calm : step.instruction.tool ∉ pageTools) (other : step.isSnapshot = false) :
    Tracks opened (before ++ [step]) view where
  fresh fresh := (tracks.fresh fresh).concat calm
  stale notFresh := by
    rcases tracks.stale notFresh with stale | ⟨opens, none⟩
    · exact Or.inl (stale.concat other)
    · refine Or.inr ⟨opens, fun earlier member => ?_⟩
      rcases List.mem_append.mp member with member | member
      · exact none earlier member
      · rw [List.mem_singleton.mp member]
        exact Step.not_isInserted_of_instruction other

/-- Lowering one action supports every step that it emits and keeps the invariant. -/
theorem Tracks.lowers {target : PlanTarget} {action : Action} {after : PageView}
    {steps : List Step} (tracks : Tracks opened before view)
    (shape : Lowers target view action after steps) :
    EveryStep (fun new step => Supported opened (before ++ new) step) steps ∧
      Tracks opened (before ++ steps) after := by
  cases shape with
  | page url step capture carries anonymous taken notInserted bare opener =>
    have captureBare : capture.instruction.template?.isSome = false := by
      cases given : capture.instruction.template?.isSome with
      | false => rfl
      | true =>
        rw [Step.isSnapshot_eq_false_of_template given] at taken
        exact taken.symm
    refine ⟨?_, ?_⟩
    · show EveryStep _ ([step] ++ [capture])
      refine everyStep_append (everyStep_singleton ?_) (everyStep_singleton ?_)
      · exact carries.supported fun onElement => absurd onElement Bool.false_ne_true
      · exact supported_of_bare captureBare notInserted
    · refine tracks_of_covered (view.isFresh_opened _) ?_
      rw [← List.singleton_append, ← List.append_assoc]
      exact covered_concat_snapshot _ taken
  | element _ purpose step _ onElement carries effect =>
    obtain ⟨inserted, covered⟩ := tracks.snapshotBefore purpose
    refine ⟨everyStep_append inserted (everyStep_singleton ?_), ?_⟩
    · rw [List.append_nil]
      exact carries.supported fun _ => covered
    · rw [← List.append_assoc]
      rcases effect with ⟨rfl, calm⟩ | ⟨rfl, changes⟩
      · exact tracks_of_covered view.isFresh_ready (covered.concat calm)
      · exact tracks_of_stale view.ready.isFresh_staled (stale_concat_of_staleTools _ changes)
  | plain _ step _ offElement carries stays effect =>
    refine ⟨everyStep_singleton (carries.supported fun onElement => ?_), ?_⟩
    · rw [offElement] at onElement
      exact absurd onElement Bool.false_ne_true
    · rcases effect with ⟨rfl, calm⟩ | ⟨rfl, changes⟩
      · exact tracks.concat calm carries.notSnapshot
      · exact tracks_of_stale view.isFresh_staled (stale_concat_of_staleTools _ changes)

/-- Lowering a list of actions supports every step that it emits. -/
theorem Tracks.lowerAll (target : PlanTarget) (actions : List Action)
    (tracks : Tracks opened before view) :
    EveryStep (fun new step => Supported opened (before ++ new) step)
      (lowerAll target view actions).2 := by
  induction actions generalizing before view with
  | nil => exact everyStep_nil _
  | cons action actions inductionHypothesis =>
    obtain ⟨supported, kept⟩ := tracks.lowers (BrowserPlan.lowers target view action)
    rw [lowerAll_cons]
    refine everyStep_append supported ?_
    simpa only [List.append_assoc] using inductionHypothesis kept

/-! ### The numbers change nothing -/

theorem exists_mem_of_unnumbered {steps others : List Step}
    (same : steps.map Step.unnumbered = others.map Step.unnumbered) {step : Step}
    (member : step ∈ others) : ∃ original ∈ steps, original.unnumbered = step.unnumbered := by
  have mapped := List.mem_map_of_mem (f := Step.unnumbered) member
  rw [← same] at mapped
  exact List.mem_map.mp mapped

theorem Step.instruction_eq_of_unnumbered {step other : Step}
    (same : step.unnumbered = other.unnumbered) : step.instruction = other.instruction := by
  show step.unnumbered.instruction = other.unnumbered.instruction
  rw [same]

theorem Step.isSnapshot_eq_of_unnumbered {step other : Step}
    (same : step.unnumbered = other.unnumbered) : step.isSnapshot = other.isSnapshot := by
  rw [isSnapshot, isSnapshot, instruction_eq_of_unnumbered same]

theorem Step.IsInserted.of_unnumbered {step other : Step}
    (same : step.unnumbered = other.unnumbered) (inserted : other.IsInserted) :
    step.IsInserted := by
  rwa [IsInserted, same]

/-- Being covered has nothing to do with numbers. -/
theorem Covered.of_unnumbered {steps others : List Step}
    (same : steps.map Step.unnumbered = others.map Step.unnumbered) (covered : Covered steps) :
    Covered others := by
  obtain ⟨earlier, snapshot, between, rfl, taken, quiet⟩ := covered
  rw [List.map_append, List.map_cons] at same
  obtain ⟨earlier', rest, rfl, _, found⟩ := List.map_eq_append_iff.mp same.symm
  obtain ⟨snapshot', between', rfl, sameSnapshot, sameBetween⟩ := List.map_eq_cons_iff.mp found
  refine ⟨earlier', snapshot', between', rfl,
    (Step.isSnapshot_eq_of_unnumbered sameSnapshot).trans taken, fun step member => ?_⟩
  obtain ⟨original, memberOriginal, equal⟩ := exists_mem_of_unnumbered sameBetween.symm member
  rw [← Step.instruction_eq_of_unnumbered equal]
  exact quiet original memberOriginal

theorem Stale.of_unnumbered {steps others : List Step}
    (same : steps.map Step.unnumbered = others.map Step.unnumbered) (stale : Stale steps) :
    Stale others := by
  rintro earlier snapshot between rfl taken latest
  rw [List.map_append, List.map_cons] at same
  obtain ⟨earlier', rest, rfl, _, found⟩ := List.map_eq_append_iff.mp same
  obtain ⟨snapshot', between', rfl, sameSnapshot, sameBetween⟩ := List.map_eq_cons_iff.mp found
  have latest' : ∀ step ∈ between', step.isSnapshot = false := by
    intro step member
    obtain ⟨other, memberOther, equal⟩ := exists_mem_of_unnumbered sameBetween.symm member
    rw [← Step.isSnapshot_eq_of_unnumbered equal]
    exact latest other memberOther
  obtain ⟨change, member, changes⟩ := stale earlier' snapshot' between' rfl
    ((Step.isSnapshot_eq_of_unnumbered sameSnapshot).trans taken) latest'
  obtain ⟨other, memberOther, equal⟩ := exists_mem_of_unnumbered sameBetween.symm member
  exact ⟨other, memberOther, by rwa [Step.instruction_eq_of_unnumbered equal]⟩

/-- What every step of a list is promised it is promised after numbering. -/
theorem everyStep_numbered {opened : Prop} {steps : List Step} (first : Nat)
    (supported : EveryStep (Supported opened) steps) :
    EveryStep (Supported opened) (Step.numbered first steps) := by
  intro before step after equal
  obtain ⟨earlier, original, later, rfl, same, sameStep⟩ := Step.exists_of_numbered_eq equal
  obtain ⟨covered, needed⟩ := supported earlier original later rfl
  refine ⟨fun template => ?_, fun inserted => ?_⟩
  · rw [← Step.instruction_eq_of_unnumbered sameStep] at template
    exact (covered template).of_unnumbered same
  · rcases needed (inserted.of_unnumbered sameStep) with stale | ⟨opens, none⟩
    · exact Or.inl (stale.of_unnumbered same)
    · refine Or.inr ⟨opens, fun other member insertedOther => ?_⟩
      obtain ⟨original', member', equal'⟩ := exists_mem_of_unnumbered same member
      exact none original' member' (insertedOther.of_unnumbered equal')

/-! ### Whole plans -/

theorem supported_openingSteps (target : PlanTarget) (opened : Prop) :
    EveryStep (Supported opened) (openingSteps target) := by
  show EveryStep _ ([_] ++ [_])
  refine everyStep_append (everyStep_singleton ?_) (everyStep_singleton ?_)
  · exact supported_of_bare rfl (Step.not_isInserted_of_instruction rfl)
  · exact supported_of_bare rfl (Step.not_isInserted_of_note rfl (by decide))

/-- Behind the steps that open the base address lowering starts without a fresh snapshot. -/
theorem tracks_openingSteps (target : PlanTarget) : Tracks True (openingSteps target) {} where
  fresh fresh := absurd fresh Bool.false_ne_true
  stale _ := by
    refine Or.inr ⟨trivial, fun step member => ?_⟩
    rcases List.mem_cons.mp member with rfl | member
    · exact Step.not_isInserted_of_instruction rfl
    · rw [List.mem_singleton.mp member]
      exact Step.not_isInserted_of_note rfl (by decide)

/-- In every plan a step that refers to an element has a snapshot before it that still holds: no
step that may change the page stands between. And every inserted snapshot is needed: behind the
latest snapshot before it stands a step that makes it stale, unless it is the first one that is
inserted in a plan that opens the base address by itself. -/
theorem plan_supported (target : PlanTarget) (method : TestMethod) :
    EveryStep (Supported (needsOpening method.actions = true)) (method.plan target).steps := by
  refine everyStep_numbered 1 ?_
  show EveryStep _ ((if needsOpening method.actions then openingSteps target else []) ++
    (lowerAll target {} method.actions).2)
  split
  · rename_i needs
    refine everyStep_append (supported_openingSteps target _) ?_
    simp only [needs]
    exact (tracks_openingSteps target).lowerAll target method.actions
  · have tracks : Tracks (needsOpening method.actions = true) [] {} :=
      tracks_of_stale rfl stale_nil
    exact tracks.lowerAll target method.actions

end BrowserPlan
