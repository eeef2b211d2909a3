/-
This file says what lowering one action can do, once and for all actions.

An action lowers in one of three ways. A navigation opens its page and takes a snapshot at
once. An action on an element takes a snapshot first, if the last one is stale, and then gives
the step that carries it out. Every other action gives one step that needs no snapshot. What a
plan guarantees follows from these three shapes alone, without another look at the kinds of
actions.

The numbers of a plan are put on last. No property of a step but its number depends on them, so
the file also says how numbering commutes with everything else.
-/

import BrowserPlan.Plan.Basic
import Mathlib.Data.List.Forall2

namespace BrowserPlan

/-! ### Steps by what they do to the page -/

/-- The tools after which the page may be another one or look different. -/
def pageTools : List Text :=
  ["browser_navigate", "browser_click", "browser_wait_for"]

/-- The tools that leave the address of the page alone and make its snapshot stale. -/
def staleTools : List Text :=
  ["browser_click", "browser_wait_for"]

/-- The selector of an action that is carried out on an element. -/
def Action.element? : Action → Option Text
  | .fill selector _ => some selector
  | .clear selector => some selector
  | .click selector => some selector
  | .getText selector => some selector
  | _ => none

namespace Step

/-- The step before it got its number. -/
def unnumbered (step : Step) : Step :=
  { step with number := 0 }

/-- A snapshot that lowering put before a step for an element. Its note tells it from the
snapshot behind a navigation and from the initial one. -/
def IsInserted (step : Step) : Prop :=
  ∃ (view : PageView) (purpose : Text), step.unnumbered ∈ view.snapshotBefore purpose

/-- An inserted step is a snapshot with a note that says what it is for. -/
theorem IsInserted.unnumbered_eq {step : Step} (inserted : step.IsInserted) :
    ∃ purpose : Text,
      step.unnumbered = snapshot ("Snapshot before " ++ purpose ++ " (auto-inserted)") := by
  obtain ⟨view, purpose, member⟩ := inserted
  unfold PageView.snapshotBefore at member
  split at member
  · exact absurd member List.not_mem_nil
  · exact ⟨purpose, List.mem_singleton.mp member⟩

/-- A step whose note opens with another letter than that of an inserted snapshot. -/
theorem not_isInserted_of_note {step : Step} {first : Char} {rest : Text}
    (note : step.note = first :: rest) (different : first ≠ 'S') : ¬ step.IsInserted := by
  intro inserted
  obtain ⟨purpose, equal⟩ := inserted.unnumbered_eq
  have sameNote : step.note = "Snapshot before " ++ purpose ++ " (auto-inserted)" :=
    (Step.mk.inj equal).2.1
  rw [note] at sameNote
  exact different (List.cons.inj sameNote).1

theorem not_isInserted_of_instruction {step : Step} (other : step.isSnapshot = false) :
    ¬ step.IsInserted := by
  intro inserted
  obtain ⟨purpose, equal⟩ := inserted.unnumbered_eq
  have taken : step.instruction = .snapshot := (Step.mk.inj equal).1
  rw [isSnapshot, taken] at other
  exact absurd other (by decide)

theorem isSnapshot_eq_false_of_template {step : Step}
    (template : step.instruction.template?.isSome = true) : step.isSnapshot = false := by
  obtain ⟨instruction, note, selector?, action?, number⟩ := step
  cases instruction <;> first | rfl | exact absurd template Bool.false_ne_true

/-- A snapshot leaves the page as it is. -/
theorem tool_notMem_of_isSnapshot {step : Step} (snapshot : step.isSnapshot = true) :
    step.instruction.tool ∉ pageTools := by
  rw [isSnapshot, decide_eq_true_eq] at snapshot
  rw [snapshot]
  decide

end Step

/-- What makes a snapshot stale may change the page. -/
theorem staleTools_subset : staleTools ⊆ pageTools := by
  decide

/-! ### The step that carries an action out -/

/-- The text that describes the element in a template, which is for the element itself or for
one field of a form. -/
def elementText? (template : List (Text × Json)) : Option Text :=
  match Json.fieldOf? "element" template, Json.fieldOf? "fields" template with
  | some value, _ => value.string?
  | none, some (.array [.object field]) => (Json.fieldOf? "element" field).bind Json.string?
  | none, _ => none

/-- The step carries the action out: a navigation opens its page, or the base address if its own
is known only at run time, and every other step names the action that it stands for. Exactly
the actions that are not known are skipped, and exactly those on an element wait for a
reference to it, under the selector of the action and its description. -/
structure Step.CarriesOut (target : PlanTarget) (action : Action) (step : Step) : Prop where
  page : ∀ url, action = .navigate url →
    step.instruction = .navigate (if isDeferred url then target.baseUrl else url)
  original : (∀ url, action ≠ .navigate url) → step.action? = some action
  skipped : step.isSkipped = true ↔ ∃ type fields, action = .unknown type fields
  template : step.instruction.template?.isSome = true ↔ action.element?.isSome = true
  element : ∀ selector, action.element? = some selector →
    step.instruction.isPending = true ∧ step.selector? = some selector ∧
      step.instruction.template?.bind elementText? = some (describe selector)
  notSnapshot : step.isSnapshot = false

/-! ### The three shapes of lowering -/

/-- What lowering an action gives: the view afterwards and the steps. -/
inductive Lowers (target : PlanTarget) (view : PageView) : Action → PageView → List Step → Prop
  /-- A navigation and its snapshot. -/
  | page (url : Text) (step capture : Step) (carries : step.CarriesOut target (.navigate url))
      (anonymous : step.action? = none) (taken : capture.isSnapshot = true)
      (notInserted : ¬ capture.IsInserted) (bare : capture.action? = none)
      (opener : ∃ rest : Text, step.note = 'N' :: rest) :
      Lowers target view (.navigate url) (view.opened (target.resolve url)) [step, capture]
  /-- A step for an element, with a snapshot before it if the last one is stale. -/
  | element (action : Action) (purpose : Text) (step : Step) (after : PageView)
      (onElement : action.element?.isSome = true) (carries : step.CarriesOut target action)
      (effect : after = view.ready ∧ step.instruction.tool ∉ pageTools ∨
        after = view.ready.staled ∧ step.instruction.tool ∈ staleTools) :
      Lowers target view action after (view.snapshotBefore purpose ++ [step])
  /-- A step that needs no snapshot. -/
  | plain (action : Action) (step : Step) (after : PageView)
      (offElement : action.element? = none) (carries : step.CarriesOut target action)
      (stays : ∀ url, action ≠ .navigate url)
      (effect : after = view ∧ step.instruction.tool ∉ pageTools ∨
        after = view.staled ∧ step.instruction.tool ∈ staleTools) :
      Lowers target view action after [step]

theorem carriesOut_navigate (target : PlanTarget) (url note : Text) :
    Step.CarriesOut target (.navigate url)
      { instruction := .navigate (target.resolve url), note } where
  page := by
    intro other equal
    cases equal
    rfl
  original others := absurd rfl (others url)
  skipped := by simp [Step.isSkipped]
  template := by simp [Instruction.template?, Action.element?]
  element := by simp [Action.element?]
  notSnapshot := rfl

/-- A step for an element carries its action out if its template describes the element. -/
theorem carriesOut_element {target : PlanTarget} {action : Action} {selector : Text}
    (onElement : action.element? = some selector) (instruction : Instruction) (note : Text)
    (pending : instruction.isPending = true)
    (described : instruction.template?.bind elementText? = some (describe selector)) :
    Step.CarriesOut target action
      { instruction, note, selector? := some selector, action? := some action } where
  page url equal := by
    subst equal
    exact absurd onElement (by simp [Action.element?])
  original _ := rfl
  skipped := by
    have known : ¬ ∃ type fields, action = .unknown type fields := by
      rintro ⟨type, fields, rfl⟩
      exact absurd onElement (by simp [Action.element?])
    cases instruction <;> simp_all [Step.isSkipped, Instruction.isPending]
  template := by
    cases given : instruction.template? with
    | none => rw [given] at described; cases described
    | some template => simp [onElement]
  element other equal := by
    rw [onElement] at equal
    cases equal
    exact ⟨pending, rfl, described⟩
  notSnapshot := by
    cases instruction <;> simp_all [Step.isSnapshot, Instruction.isPending]

/-- A step off the elements carries its action out if it has no template and is skipped for an
unknown action only. -/
theorem carriesOut_plain {target : PlanTarget} {action : Action}
    (offElement : action.element? = none) (stays : ∀ url, action ≠ .navigate url)
    (instruction : Instruction) (note : Text) (selector? : Option Text)
    (bare : instruction.template? = none) (notSnapshot : instruction ≠ .snapshot)
    (skipped : instruction = .unhandled ↔ ∃ type fields, action = .unknown type fields) :
    Step.CarriesOut target action { instruction, note, selector?, action? := some action } where
  page url equal := absurd equal (stays url)
  original _ := rfl
  skipped := by rw [Step.isSkipped, decide_eq_true_eq, skipped]
  template := by simp [bare, offElement]
  element selector equal := by rw [offElement] at equal; cases equal
  notSnapshot := decide_eq_false notSnapshot

theorem notMem_of_contains {tool : Text} {tools : List Text}
    (absent : tools.contains tool = false) : tool ∉ tools := by
  intro member
  rw [List.contains_iff_mem.mpr member] at absent
  exact Bool.false_ne_true absent.symm

/-- Lowering has one of the three shapes. -/
theorem lowers (target : PlanTarget) (view : PageView) (action : Action) :
    Lowers target view action (lower target view action).1 (lower target view action).2 := by
  cases action with
  | navigate url =>
    refine .page url _ _ (carriesOut_navigate target url _) rfl rfl ?_ rfl ⟨_, rfl⟩
    exact Step.not_isInserted_of_note rfl (by decide)
  | fill selector value =>
    exact .element _ _ _ _ rfl (carriesOut_element rfl _ _ rfl rfl)
      (Or.inl ⟨rfl, notMem_of_contains rfl⟩)
  | clear selector =>
    exact .element _ _ _ _ rfl (carriesOut_element rfl _ _ rfl rfl)
      (Or.inl ⟨rfl, notMem_of_contains rfl⟩)
  | click selector =>
    exact .element _ _ _ _ rfl (carriesOut_element rfl _ _ rfl rfl)
      (Or.inr ⟨rfl, List.contains_iff_mem.mp rfl⟩)
  | getText selector =>
    exact .element _ _ _ _ rfl (carriesOut_element rfl _ _ rfl rfl)
      (Or.inl ⟨rfl, notMem_of_contains rfl⟩)
  | wait selector condition =>
    exact .plain _ _ _ rfl (carriesOut_plain rfl (by simp) _ _ _ rfl (by simp) (by simp))
      (by simp) (Or.inr ⟨rfl, List.contains_iff_mem.mp rfl⟩)
  | assertText selector expected =>
    exact .plain _ _ _ rfl (carriesOut_plain rfl (by simp) _ _ _ rfl (by simp) (by simp))
      (by simp) (Or.inl ⟨rfl, notMem_of_contains rfl⟩)
  | assertTrue expression =>
    exact .plain _ _ _ rfl (carriesOut_plain rfl (by simp) _ _ _ rfl (by simp) (by simp))
      (by simp) (Or.inl ⟨rfl, notMem_of_contains rfl⟩)
  | assertFalse expression =>
    exact .plain _ _ _ rfl (carriesOut_plain rfl (by simp) _ _ _ rfl (by simp) (by simp))
      (by simp) (Or.inl ⟨rfl, notMem_of_contains rfl⟩)
  | countElements selector =>
    exact .plain _ _ _ rfl (carriesOut_plain rfl (by simp) _ _ _ rfl (by simp) (by simp))
      (by simp) (Or.inl ⟨rfl, notMem_of_contains rfl⟩)
  | unknown type fields =>
    exact .plain _ _ _ rfl (carriesOut_plain rfl (by simp) _ _ _ rfl (by simp) (by simp))
      (by simp) (Or.inl ⟨rfl, notMem_of_contains rfl⟩)

theorem lowerAll_cons (target : PlanTarget) (view : PageView) (action : Action)
    (actions : List Action) :
    (lowerAll target view (action :: actions)).2 =
      (lower target view action).2 ++ (lowerAll target (lower target view action).1 actions).2 :=
  rfl

/-! ### Numbering -/

namespace Step

theorem map_unnumbered_numbered (first : Nat) (steps : List Step) :
    (numbered first steps).map unnumbered = steps.map unnumbered := by
  induction steps generalizing first with
  | nil => rfl
  | cons step steps inductionHypothesis =>
    rw [numbered, List.map_cons, List.map_cons, inductionHypothesis]
    rfl

theorem length_numbered (first : Nat) (steps : List Step) :
    (numbered first steps).length = steps.length := by
  have equal := congrArg List.length (map_unnumbered_numbered first steps)
  rwa [List.length_map, List.length_map] at equal

theorem numbered_append (first : Nat) (steps more : List Step) :
    numbered first (steps ++ more) =
      numbered first steps ++ numbered (first + steps.length) more := by
  induction steps generalizing first with
  | nil => rfl
  | cons step steps inductionHypothesis =>
    rw [List.cons_append, numbered, numbered, inductionHypothesis, List.length_cons,
      List.cons_append, Nat.add_right_comm, Nat.add_assoc]

/-- The numbers go up one by one. -/
theorem map_number_numbered (first : Nat) (steps : List Step) :
    (numbered first steps).map Step.number = List.range' first steps.length := by
  induction steps generalizing first with
  | nil => rfl
  | cons step steps inductionHypothesis =>
    rw [numbered, List.map_cons, inductionHypothesis, List.length_cons, List.range'_succ]

/-- A step that is found at a place of a numbered list stands, with another number, at the same
place of the list without numbers. -/
theorem exists_of_numbered_eq {first : Nat} {steps before after : List Step} {step : Step}
    (equal : numbered first steps = before ++ step :: after) :
    ∃ earlier original later, steps = earlier ++ original :: later ∧
      earlier.map unnumbered = before.map unnumbered ∧
      original.unnumbered = step.unnumbered := by
  have mapped := map_unnumbered_numbered first steps
  rw [equal, List.map_append, List.map_cons] at mapped
  obtain ⟨earlier, rest, rfl, same, found⟩ := List.map_eq_append_iff.mp mapped.symm
  obtain ⟨original, later, rfl, sameStep, _⟩ := List.map_eq_cons_iff.mp found
  exact ⟨earlier, original, later, rfl, same, sameStep⟩

end Step

end BrowserPlan
