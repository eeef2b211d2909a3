/-
This file proves which literals arrive in an action as its value.

Where a value is passed on, the argument is taken to be all that stands before the end of the
statement, and the first semicolon ends it. Nobody looks whether that semicolon stands inside of a
literal. So of the literals that a call may be given, those with a semicolon are missed, and no
others: quotes, backslashes, parentheses and what would open a comment arrive as they are.
-/

import BrowserPlan.Proofs.Action.Document
import BrowserPlan.Proofs.Action.Quiet

namespace BrowserPlan

open Java (Uncommented uncommented_code)

/-! ### Actions that pass a value on -/

theorem notMem_of_readFill {text rest selector value : Text}
    (read : readFill text = some (.fill selector value, rest)) : ';' ∉ value := by
  obtain ⟨⟨_, _⟩, _, read⟩ := Option.bind_eq_some_iff.mp read
  obtain ⟨_, _, read⟩ := Option.bind_eq_some_iff.mp read
  obtain ⟨_, _, read⟩ := Option.bind_eq_some_iff.mp read
  obtain ⟨⟨argument, _⟩, passed, read⟩ := Option.bind_eq_some_iff.mp read
  cases read
  exact notMem_literalOrDeferred (notMem_of_readArgument passed)

/-- A page is read up to the first semicolon, so its address holds none. -/
theorem notMem_of_readNavigate {before : Option Char} {text rest url : Text}
    (read : readNavigate before text = some (.navigate url, rest)) : ';' ∉ url := by
  unfold readNavigate at read
  split_ifs at read
  obtain ⟨_, _, read⟩ := Option.bind_eq_some_iff.mp read
  obtain ⟨_, _, read⟩ := Option.bind_eq_some_iff.mp read
  obtain ⟨_, _, read⟩ := Option.bind_eq_some_iff.mp read
  obtain ⟨⟨argument, _⟩, passed, read⟩ := Option.bind_eq_some_iff.mp read
  cases read
  exact notMem_literalOrDeferred (notMem_of_readArgument passed)

/-- The value that an action passes on: the keys that are sent or the page that is opened. -/
def Action.passed? : Action → Option Text
  | .navigate url => some url
  | .fill _ value => some value
  | _ => none

/-- No action that is recognised passes a semicolon on. -/
theorem notMem_passed_of_mem_actionsOfBody {body value : Text} {order : ActionOrder}
    {action : Action} (member : action ∈ actionsOfBody body order)
    (passes : action.passed? = some value) : ';' ∉ value := by
  obtain ⟨construct, position, found⟩ := mem_actionsOfBody_iff.mp member
  have same := Construct.construct?_of_mem_findAll found
  obtain ⟨before, part, rest, _, read⟩ := Construct.exists_read_of_mem_findAll found
  cases action with
  | navigate url =>
    cases passes
    cases same
    obtain ⟨⟨_, _⟩, read, equal⟩ := Option.map_eq_some_iff.mp read
    cases equal
    exact notMem_of_readNavigate read
  | fill selector value =>
    cases passes
    cases same
    obtain ⟨⟨_, _⟩, read, equal⟩ := Option.map_eq_some_iff.mp read
    cases equal
    exact notMem_of_readFill read
  | _ => cases passes

/-! ### Calls on a literal -/

/-- What is read behind a quiet part is found there. -/
theorem Construct.mem_findAll_of_read {construct : Construct} {front text rest : Text}
    {action : Action} (notEmpty : text ≠ []) (quiet : Quiet construct front text)
    (read : construct.read front.getLast? text = some (some action, rest)) :
    (front.length, action) ∈ construct.findAll (front ++ text) := by
  have found := quiet.findFrom none 0
  rw [Option.or_none, Nat.zero_add] at found
  rw [findAll, Text.findAll, found]
  refine List.mem_filterMap.mpr ⟨(front.length, some action), ?_, rfl⟩
  exact Text.mem_findFrom_of_read notEmpty read front.length

/-- A call that passes a literal on: keys for an element, or one of the two ways to open a page. -/
inductive LiteralCall where
  | sendKeys (target : Target)
  | get
  | navigateTo
  deriving DecidableEq, Repr

namespace LiteralCall

/-- What stands before the call. -/
def front : LiteralCall → Text
  | .sendKeys _ => "\x7b driver."
  | .get => "\x7b "
  | .navigateTo => "\x7b "

/-- The call up to its opening parenthesis. -/
def opening : LiteralCall → Text
  | .sendKeys target => target.lookup ++ ".sendKeys("
  | .get => "driver.get("
  | .navigateTo => "driver.navigate().to("

/-- A body in which the call with the value as a literal is the only statement. -/
def body (call : LiteralCall) (value : Text) : Text :=
  call.front ++ (call.opening ++ (Java.literal value ++ "); \x7d"))

example : (sendKeys ⟨.id, "x"⟩).body "a\"b" =
    "\x7b driver.findElement(By.id(\"x\")).sendKeys(\"a\\\"b\"); \x7d" :=
  rfl

/-- The action that the call stands for. -/
def action (value : Text) : LiteralCall → Action
  | .sendKeys target => .fill target.selector value
  | .get => .navigate value
  | .navigateTo => .navigate value

/-- The construct that the call is recognised by. -/
def construct : LiteralCall → Construct
  | .sendKeys _ => .fill
  | .get => .navigate
  | .navigateTo => .navigate

theorem passed?_action (call : LiteralCall) (value : Text) :
    (call.action value).passed? = some value := by
  cases call <;> rfl

theorem masked_body (call : LiteralCall) (value : Text) :
    Java.masked .commentsOnly (call.body value) = call.body value := by
  have front : Uncommented call.front := by
    cases call <;> exact uncommented_code rfl
  have opening : Uncommented call.opening := by
    cases call with
    | sendKeys target => exact (uncommented_lookup target).append (uncommented_code rfl)
    | get => exact uncommented_code rfl
    | navigateTo => exact uncommented_code rfl
  have closing : Uncommented "); \x7d" := uncommented_code rfl
  exact (front.append (opening.append (closing.literal_append rfl value))).masked_eq

theorem quiet_front (call : LiteralCall) (rest : Text) :
    Quiet call.construct call.front rest := by
  cases call <;> exact quiet_of_code rfl rest

/-- A value without a semicolon is read back as it is. -/
theorem read_opening (call : LiteralCall) {value : Text} (noSemicolon : ';' ∉ value)
    (rest : Text) :
    call.construct.read call.front.getLast?
        (call.opening ++ (Java.literal value ++ (");" ++ rest))) =
      some (some (call.action value), rest) := by
  cases call with
  | sendKeys target =>
    show Option.map _ (readFill (target.lookup ++ ".sendKeys(" ++ _)) = _
    rw [List.append_assoc, readFill_lookup target noSemicolon]
    rfl
  | get => exact congrArg (Option.map _) (readNavigate_openPage rfl noSemicolon rest)
  | navigateTo => exact congrArg (Option.map _) (readNavigate_navigateTo rfl noSemicolon rest)

/-- A call is found behind what stands before it. -/
theorem mem_findAll_body (call : LiteralCall) {value : Text} (noSemicolon : ';' ∉ value) :
    (call.front.length, call.action value) ∈ call.construct.findAll (call.body value) := by
  have closing : ("); \x7d" : Text) = ");" ++ (" \x7d" : Text) := rfl
  rw [body, closing]
  exact Construct.mem_findAll_of_read (by simp [Java.literal]) (call.quiet_front _)
    (call.read_opening noSemicolon _)

end LiteralCall

/-- The action of a call on a literal is recognised exactly if the value holds no semicolon. -/
theorem mem_actionsOfBody_literal_iff (call : LiteralCall) (value : Text) (order : ActionOrder) :
    call.action value ∈ actionsOfBody (call.body value) order ↔ ';' ∉ value := by
  constructor
  · exact fun member => notMem_passed_of_mem_actionsOfBody member (call.passed?_action value)
  · intro noSemicolon
    refine mem_actionsOfBody_iff.mpr ⟨call.construct, call.front.length, ?_⟩
    rw [call.masked_body]
    exact call.mem_findAll_body noSemicolon

/-- Of a page whose address holds a semicolon nothing is recognised. -/
theorem navigate_notMem_of_semicolon :
    LiteralCall.get.body "a;b" = "\x7b driver.get(\"a;b\"); \x7d" ∧
      LiteralCall.get.action "a;b" = .navigate "a;b" ∧
      Action.navigate "a;b" ∉ actionsOfBody (LiteralCall.get.body "a;b") .grouped := by
  have nothing : actionsOfBody (LiteralCall.get.body "a;b") .grouped = [] :=
    List.isEmpty_iff.mp (by decide +kernel)
  refine ⟨rfl, rfl, ?_⟩
  rw [nothing]
  exact List.not_mem_nil

end BrowserPlan
