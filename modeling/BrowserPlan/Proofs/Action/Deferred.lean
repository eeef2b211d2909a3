/-
This file proves which values are taken for deferred ones, and which pages a plan opens for them.

A deferred value is told from a literal by the mark that it opens with. Every expression that is
no literal gets the mark. But a literal is decoded and passed on as it is, and if its own value
opens with the mark, nothing tells it from a deferred value any more. A plan then opens the base
address and not the page that the test names.
-/

import BrowserPlan.Proofs.Action.Argument
import BrowserPlan.Proofs.Plan.Correspondence

namespace BrowserPlan

open Java (Gap)

/-! ### Literals and deferred values -/

/-- Whether an expression, blanks around it aside, is a literal with the given contents. -/
def IsQuoted (expression contents : Text) : Prop :=
  Java.IsContents contents ∧ Text.trim expression = Java.quoted contents

theorem isQuoted_iff {expression contents : Text} :
    IsQuoted expression contents ↔
      Java.wholeLiteral? (Text.trim expression) = some contents :=
  Java.wholeLiteral?_eq_some_iff.symm

/-- An expression is the literal of one text at most. -/
theorem IsQuoted.eq {expression contents other : Text} (isQuoted : IsQuoted expression contents)
    (isOther : IsQuoted expression other) : contents = other :=
  Option.some.inj ((isQuoted_iff.mp isQuoted).symm.trans (isQuoted_iff.mp isOther))

/-- A literal stands for its value. -/
theorem literalOrDeferred_of_isQuoted {expression contents : Text}
    (isQuoted : IsQuoted expression contents) :
    literalOrDeferred expression = Java.unescape contents := by
  simp only [literalOrDeferred, isQuoted_iff.mp isQuoted]

/-- All that is no literal is deferred as it is written. -/
theorem literalOrDeferred_of_not_isQuoted {expression : Text}
    (notQuoted : ∀ contents, ¬ IsQuoted expression contents) :
    literalOrDeferred expression = deferred (Text.trim expression) := by
  have none : Java.wholeLiteral? (Text.trim expression) = .none :=
    Option.eq_none_iff_forall_ne_some.mpr fun contents whole =>
      notQuoted contents (isQuoted_iff.mpr whole)
  simp only [literalOrDeferred, none]

/-- Blanks around an expression do not matter. -/
theorem literalOrDeferred_trim (expression : Text) :
    literalOrDeferred (Text.trim expression) = literalOrDeferred expression := by
  unfold literalOrDeferred
  rw [Text.trim_trim]

theorem isDeferred_iff {value : Text} : isDeferred value = true ↔ deferredMark <+: value :=
  Text.opensWith_iff

theorem isDeferred_deferred (expression : Text) : isDeferred (deferred expression) = true := by
  rw [isDeferred_iff, deferred, List.append_assoc, List.append_assoc]
  exact List.prefix_append deferredMark _

/-- Whether an expression is a literal whose value opens with the mark of deferred values. -/
def IsMarked (expression : Text) : Prop :=
  ∃ contents, IsQuoted expression contents ∧ deferredMark <+: Java.unescape contents

theorem IsQuoted.isMarked_iff {expression contents : Text}
    (isQuoted : IsQuoted expression contents) :
    IsMarked expression ↔ deferredMark <+: Java.unescape contents := by
  refine ⟨?_, fun marked => ⟨contents, isQuoted, marked⟩⟩
  rintro ⟨other, isOther, marked⟩
  exact isOther.eq isQuoted ▸ marked

/-- What is read counts as deferred if it is no literal, but also if it is a literal that opens like
a deferred value. -/
theorem isDeferred_literalOrDeferred_iff (expression : Text) :
    isDeferred (literalOrDeferred expression) = true ↔
      (∀ contents, ¬ IsQuoted expression contents) ∨ IsMarked expression := by
  by_cases quoted : ∃ contents, IsQuoted expression contents
  · obtain ⟨contents, isQuoted⟩ := quoted
    rw [literalOrDeferred_of_isQuoted isQuoted, isDeferred_iff, isQuoted.isMarked_iff]
    exact (or_iff_right fun notQuoted => notQuoted contents isQuoted).symm
  · have notQuoted := not_exists.mp quoted
    rw [literalOrDeferred_of_not_isQuoted notQuoted]
    exact iff_of_true (isDeferred_deferred _) (.inl notQuoted)

/-- A deferred value tells that there is no literal, unless the literal is marked. -/
theorem isDeferred_tells_iff (expression : Text) :
    (isDeferred (literalOrDeferred expression) = true ↔
      ∀ contents, ¬ IsQuoted expression contents) ↔ ¬ IsMarked expression := by
  rw [isDeferred_literalOrDeferred_iff]
  constructor
  · rintro tells ⟨contents, isQuoted, marked⟩
    exact tells.mp (.inr ⟨contents, isQuoted, marked⟩) contents isQuoted
  · exact fun notMarked => or_iff_left notMarked

/-- The page that an argument is resolved to: the base address if it is no literal or a marked one,
and its decoded value otherwise. -/
theorem resolve_cases (target : PlanTarget) (expression : Text) :
    ((∀ contents, ¬ IsQuoted expression contents) ∨ IsMarked expression) ∧
        target.resolve (literalOrDeferred expression) = target.baseUrl ∨
      ∃ contents, IsQuoted expression contents ∧ ¬ IsMarked expression ∧
        target.resolve (literalOrDeferred expression) = Java.unescape contents := by
  by_cases deferred : isDeferred (literalOrDeferred expression) = true
  · exact .inl ⟨(isDeferred_literalOrDeferred_iff expression).mp deferred, if_pos deferred⟩
  · have notDeferred := mt (isDeferred_literalOrDeferred_iff expression).mpr deferred
    obtain ⟨quoted, notMarked⟩ := not_or.mp notDeferred
    obtain ⟨contents, isQuoted⟩ := not_forall_not.mp quoted
    refine .inr ⟨contents, isQuoted, notMarked, ?_⟩
    rw [PlanTarget.resolve, if_neg deferred, literalOrDeferred_of_isQuoted isQuoted]

/-! ### Calls that open a page -/

/-- The method of a call that opens a page, with the blanks inside of it. -/
inductive PageMethod where
  | get
  | navigateTo (beforeOpening beforeClosing beforePoint behindPoint : Gap)

/-- The method as it is written. -/
def PageMethod.text : PageMethod → Text
  | .get => "get"
  | .navigateTo beforeOpening beforeClosing beforePoint behindPoint =>
      "navigate" ++ (beforeOpening.text ++ ("(" ++ (beforeClosing.text ++ (")" ++
        (beforePoint.text ++ ("." ++ (behindPoint.text ++ "to")))))))

theorem PageMethod.navigateTo_append
    (beforeOpening beforeClosing beforePoint behindPoint : Gap) (rest : Text) :
    (navigateTo beforeOpening beforeClosing beforePoint behindPoint).text ++ rest =
      "navigate" ++ (beforeOpening.text ++ ("(" ++ (beforeClosing.text ++ (")" ++
        (beforePoint.text ++ ("." ++ (behindPoint.text ++ ("to" ++ rest)))))))) := by
  unfold text
  simp only [List.append_assoc]

/-- A call that opens a page: its method, its argument and the blanks inside of it. -/
structure PageCall where
  beforePoint : Gap
  behindPoint : Gap
  method : PageMethod
  beforeOpening : Gap
  argument : Text
  beforeSemicolon : Gap

/-- A call as it is written. -/
def PageCall.text (call : PageCall) : Text :=
  "driver" ++ (call.beforePoint.text ++ ("." ++ (call.behindPoint.text ++ (call.method.text ++
    (call.beforeOpening.text ++ ("(" ++ (call.argument ++ (")" ++
      (call.beforeSemicolon.text ++ ";")))))))))

theorem PageCall.text_append (call : PageCall) (rest : Text) :
    call.text ++ rest =
      "driver" ++ (call.beforePoint.text ++ ("." ++ (call.behindPoint.text ++ (call.method.text ++
        (call.beforeOpening.text ++ ("(" ++ (call.argument ++ (")" ++
          (call.beforeSemicolon.text ++ (";" ++ rest)))))))))) := by
  unfold text
  simp only [List.append_assoc]

theorem exists_of_readMethod {name text rest : Text} (read : readMethod name text = some rest) :
    ∃ before behind : Gap,
      text = before.text ++ ("." ++ (behind.text ++ (name ++ rest))) := by
  obtain ⟨named, point, word⟩ := Option.bind_eq_some_iff.mp read
  obtain ⟨before, behind, rfl⟩ := exists_of_spacedSign point
  rw [Text.after?_eq_some_iff.mp word]
  exact ⟨before, behind, rfl⟩

theorem exists_of_readNoArguments {text rest : Text} (read : readNoArguments text = some rest) :
    ∃ beforeOpening beforeClosing : Gap,
      text = beforeOpening.text ++ ("(" ++ (beforeClosing.text ++ (")" ++ rest))) := by
  obtain ⟨opened, opening, closing⟩ := Option.bind_eq_some_iff.mp read
  obtain ⟨beforeOpening, rfl⟩ := exists_of_sign opening
  obtain ⟨beforeClosing, rfl⟩ := exists_of_sign closing
  exact ⟨beforeOpening, beforeClosing, rfl⟩

theorem exists_of_readOpenPage {text rest : Text} (read : readOpenPage text = some rest) :
    ∃ (before behind : Gap) (method : PageMethod),
      text = before.text ++ ("." ++ (behind.text ++ (method.text ++ rest))) := by
  obtain ⟨called, point, read⟩ := Option.bind_eq_some_iff.mp read
  obtain ⟨before, behind, written⟩ := exists_of_spacedSign point
  rw [written]
  split at read
  · rename_i get
    cases read
    rw [Text.after?_eq_some_iff.mp get]
    exact ⟨before, behind, .get, rfl⟩
  · obtain ⟨navigated, navigate, read⟩ := Option.bind_eq_some_iff.mp read
    obtain ⟨answered, arguments, read⟩ := Option.bind_eq_some_iff.mp read
    obtain ⟨beforeOpening, beforeClosing, noArguments⟩ := exists_of_readNoArguments arguments
    obtain ⟨beforePoint, behindPoint, answer⟩ := exists_of_readMethod read
    refine ⟨before, behind, .navigateTo beforeOpening beforeClosing beforePoint behindPoint, ?_⟩
    rw [Text.after?_eq_some_iff.mp navigate, noArguments, answer, PageMethod.navigateTo_append]

theorem exists_of_readToStatementEnd {text passed rest : Text}
    (read : readToStatementEnd text = some (passed, rest)) :
    ∃ gap : Gap, text = passed ++ (")" ++ (gap.text ++ (";" ++ rest))) := by
  induction text generalizing passed with
  | nil => cases read
  | cons char text inductionHypothesis =>
    rw [readToStatementEnd] at read
    split at read
    · rename_i ends
      cases read
      obtain ⟨behind, parenthesis, semicolon⟩ := Option.bind_eq_some_iff.mp ends
      obtain ⟨gap, written⟩ := exists_of_sign semicolon
      rw [Text.after?_eq_some_iff.mp parenthesis, written]
      exact ⟨gap, rfl⟩
    · split_ifs at read
      obtain ⟨⟨further, _⟩, later, equal⟩ := Option.map_eq_some_iff.mp read
      cases equal
      obtain ⟨gap, rfl⟩ := inductionHypothesis later
      exact ⟨gap, rfl⟩

/-- The address of a page is the value of the argument of a call, all that stands before the end of
the statement. -/
theorem exists_of_readNavigate {before : Option Char} {text rest url : Text}
    (read : readNavigate before text = some (.navigate url, rest)) :
    ∃ call : PageCall, text = call.text ++ rest ∧ ';' ∉ call.argument ∧
      url = literalOrDeferred call.argument := by
  unfold readNavigate at read
  split_ifs at read
  obtain ⟨called, driver, read⟩ := Option.bind_eq_some_iff.mp read
  obtain ⟨page, method, read⟩ := Option.bind_eq_some_iff.mp read
  obtain ⟨opened, opening, read⟩ := Option.bind_eq_some_iff.mp read
  obtain ⟨⟨argument, _⟩, passes, equal⟩ := Option.bind_eq_some_iff.mp read
  cases equal
  -- The argument of the call is what was passed, which is trimmed before it is given on.
  obtain ⟨⟨passed, _⟩, ends, equal⟩ := Option.bind_eq_some_iff.mp passes
  dsimp only at equal
  split_ifs at equal
  cases equal
  obtain ⟨beforePoint, behindPoint, pageMethod, writtenMethod⟩ := exists_of_readOpenPage method
  obtain ⟨beforeOpening, writtenOpening⟩ := exists_of_sign opening
  obtain ⟨beforeSemicolon, writtenArgument⟩ := exists_of_readToStatementEnd ends
  refine ⟨⟨beforePoint, behindPoint, pageMethod, beforeOpening, passed, beforeSemicolon⟩, ?_,
    notMem_of_readToStatementEnd ends, ?_⟩
  · rw [PageCall.text_append, Text.after?_eq_some_iff.mp driver, writtenMethod, writtenOpening,
      writtenArgument]
  · exact literalOrDeferred_trim passed

/-- Every navigation of a body comes from a call that is written in it. -/
theorem exists_of_mem_actionsOfBody {body url : Text} {order : ActionOrder}
    (member : .navigate url ∈ actionsOfBody body order) :
    ∃ call : PageCall, call.text <:+: Java.masked .commentsOnly body ∧ ';' ∉ call.argument ∧
      url = literalOrDeferred call.argument := by
  obtain ⟨construct, position, found⟩ := mem_actionsOfBody_iff.mp member
  cases Construct.construct?_of_mem_findAll found
  obtain ⟨before, part, rest, isSuffix, read⟩ := Construct.exists_read_of_mem_findAll found
  obtain ⟨⟨_, _⟩, read, equal⟩ := Option.map_eq_some_iff.mp read
  cases equal
  obtain ⟨call, rfl, value⟩ := exists_of_readNavigate read
  exact ⟨call, (List.prefix_append _ rest).isInfix.trans isSuffix.isInfix, value⟩

/-! ### Pages that are opened -/

/-- The steps of a plan that stand for the actions of its method, in order. -/
def MethodPlan.primarySteps (plan : MethodPlan) (actions : List Action) : List Step :=
  (plan.ownSteps actions).filter Step.isPrimary

/-- The primary steps of a plan carry out the actions one by one. -/
theorem forall₂_primarySteps (target : PlanTarget) (method : TestMethod) :
    List.Forall₂ (fun action step => step.CarriesOut target action) method.actions
      ((method.plan target).primarySteps method.actions) := by
  obtain ⟨first, equal⟩ := ownSteps_plan target method
  rw [MethodPlan.primarySteps, equal]
  exact forall₂_numbered first (forall₂_lowerAll target {} method.actions)

/-- The plan opens the page that a navigation is resolved to. -/
theorem exists_step_of_navigate (target : PlanTarget) {method : TestMethod} {index : Nat}
    {url : Text} (here : method.actions[index]? = some (.navigate url)) :
    ∃ step, ((method.plan target).primarySteps method.actions)[index]? = some step ∧
      step.instruction = .navigate (target.resolve url) := by
  have pairs := forall₂_primarySteps target method
  obtain ⟨inActions, same⟩ := List.getElem?_eq_some_iff.mp here
  have inSteps := pairs.length_eq ▸ inActions
  have carries : Step.CarriesOut target method.actions[index] _ := pairs.get inActions inSteps
  exact ⟨_, List.getElem?_eq_getElem inSteps, carries.page url same⟩

/-- A deferred value is told from a literal exactly if the literal is not marked. Every navigation
that is recognised has the value of the argument of a call in the body. The step of the plan for it
opens the base address if the argument is no literal or a marked one, and the decoded value of every
other literal. -/
theorem navigations_resolve_iff (target : PlanTarget) (name body : Text) (order : ActionOrder) :
    (∀ expression : Text,
      (isDeferred (literalOrDeferred expression) = true ↔
        ∀ contents, ¬ IsQuoted expression contents) ↔ ¬ IsMarked expression) ∧
    (∀ (index : Nat) (url : Text), (actionsOfBody body order)[index]? = some (.navigate url) →
      ∃ call : PageCall, call.text <:+: Java.masked .commentsOnly body ∧ ';' ∉ call.argument ∧
        url = literalOrDeferred call.argument ∧
        ∃ step, (((TestMethod.mk name (actionsOfBody body order)).plan target).primarySteps
            (actionsOfBody body order))[index]? = some step ∧
          (((∀ contents, ¬ IsQuoted call.argument contents) ∨ IsMarked call.argument) ∧
              step.instruction = .navigate target.baseUrl ∨
            ∃ contents, IsQuoted call.argument contents ∧ ¬ IsMarked call.argument ∧
              step.instruction = .navigate (Java.unescape contents))) := by
  refine ⟨isDeferred_tells_iff, ?_⟩
  intro index url here
  obtain ⟨call, written, noSemicolon, rfl⟩ :=
    exists_of_mem_actionsOfBody (List.mem_of_getElem? here)
  obtain ⟨step, found, opens⟩ :=
    @exists_step_of_navigate target ⟨name, actionsOfBody body order⟩ index _ here
  refine ⟨call, written, noSemicolon, rfl, step, found, ?_⟩
  rcases resolve_cases target call.argument with
    ⟨putOff, base⟩ | ⟨contents, isQuoted, notMarked, value⟩
  · exact .inl ⟨putOff, by rw [opens, base]⟩
  · exact .inr ⟨contents, isQuoted, notMarked, by rw [opens, value]⟩

/-- A literal that opens like a deferred value: the base address is opened in its place. -/
theorem navigations_resolve_iff_markedLiteral :
    ∃ call : PageCall,
      call.text <:+: Java.masked .commentsOnly "\x7b driver.get(\"\x7b\x7bx\"); \x7d" ∧
        ';' ∉ call.argument ∧ "\x7b\x7bx" = literalOrDeferred call.argument ∧
        ∃ step, (((TestMethod.mk "a" (actionsOfBody "\x7b driver.get(\"\x7b\x7bx\"); \x7d"
            .grouped)).plan ⟨"http://b", 2⟩).primarySteps
              (actionsOfBody "\x7b driver.get(\"\x7b\x7bx\"); \x7d" .grouped))[0]? = some step ∧
          (((∀ contents, ¬ IsQuoted call.argument contents) ∨ IsMarked call.argument) ∧
              step.instruction = .navigate "http://b" ∨
            ∃ contents, IsQuoted call.argument contents ∧ ¬ IsMarked call.argument ∧
              step.instruction = .navigate (Java.unescape contents)) := by
  have here : (actionsOfBody "\x7b driver.get(\"\x7b\x7bx\"); \x7d" .grouped)[0]? =
      some (.navigate "\x7b\x7bx") :=
    rfl
  exact (navigations_resolve_iff ⟨"http://b", 2⟩ "a" _ .grouped).2 0 _ here

/-- A literal may be taken for a deferred value, and then the page that it names is not opened. -/
theorem literal_taken_for_deferred :
    IsQuoted "\"\x7b\x7bx\"" "\x7b\x7bx" ∧
      isDeferred (literalOrDeferred "\"\x7b\x7bx\"") = true ∧
      ((TestMethod.mk "a" (actionsOfBody "\x7b driver.get(\"\x7b\x7bx\"); \x7d"
        .grouped)).plan ⟨"http://b", 2⟩).steps.map Step.instruction =
          [.navigate "http://b", .snapshot] := by
  refine ⟨⟨by decide, rfl⟩, by decide, by decide +kernel⟩

end BrowserPlan
