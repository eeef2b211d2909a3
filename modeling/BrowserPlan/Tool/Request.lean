/-
This file holds the requests that the five tools take and reads them from the arguments of a
call.

Arguments are named. Each tool has its own, in a fixed order, and the faults of a call are
told in that order; arguments that a tool does not have are passed over. A switch may be
written as a truth value, as zero or one, or as one of a few words; an optional argument may
be null.
-/

import BrowserPlan.Action.Recognizer
import BrowserPlan.Json.Spelling

namespace BrowserPlan

/-! ### Tools -/

/-- The tools. -/
inductive Tool where
  | validateSyntax
  | compile
  | validateSpec
  | extractActions
  | buildPlan
  deriving DecidableEq, Repr

/-- The tools in the order of their names. -/
def Tool.all : List Tool :=
  [.buildPlan, .compile, .extractActions, .validateSpec, .validateSyntax]

/-- The name of a tool. -/
def Tool.name : Tool → Text
  | .validateSyntax => "validate_syntax"
  | .compile => "compile"
  | .validateSpec => "validate_spec"
  | .extractActions => "extract_actions"
  | .buildPlan => "build_plan"

/-- The tool of a name. -/
def Tool.ofName? (name : Text) : Option Tool :=
  Tool.all.find? fun tool => tool.name = name

/-! ### Faults of arguments -/

/-- What is wrong with an argument. -/
inductive ArgumentProblem where
  | missing
  | notText
  | unknownOrder
  | notSwitch
  | unclearSwitch
  deriving DecidableEq, Repr

/-- A problem with the argument of a name, and the value that was given. -/
structure ArgumentFault where
  argument : Text
  problem : ArgumentProblem
  given? : Option Json

/-- A problem in words. -/
def ArgumentProblem.message : ArgumentProblem → Text
  | .missing => "Field required"
  | .notText => "Input should be a valid string"
  | .unknownOrder => "Input should be 'grouped' or 'source'"
  | .notSwitch => "Input should be a valid boolean"
  | .unclearSwitch => "Input should be a valid boolean, unable to interpret input"

/-- A fault in words, behind the name of its argument. -/
def ArgumentFault.message (fault : ArgumentFault) : Text :=
  fault.argument ++ ": " ++ fault.problem.message

/-! ### Reading an argument -/

/-- What is read from an argument, or its fault. -/
abbrev Read (Value : Type) := Except ArgumentFault Value

/-- Reads a text that must be given. -/
def readText (arguments : List (Text × Json)) (name : Text) : Read Text :=
  match Json.fieldOf? name arguments with
  | none => .error ⟨name, .missing, none⟩
  | some (.string text) => .ok text
  | some value => .error ⟨name, .notText, some value⟩

/-- Reads a text that has a default. -/
def readTextOr (default : Text) (arguments : List (Text × Json)) (name : Text) : Read Text :=
  match Json.fieldOf? name arguments with
  | none => .ok default
  | some _ => readText arguments name

/-- Reads an argument that may be left out or be null. -/
def readOptional {Value : Type} (read : Json → Except ArgumentProblem Value)
    (arguments : List (Text × Json)) (name : Text) : Read (Option Value) :=
  match Json.fieldOf? name arguments with
  | none | some .null => .ok none
  | some value =>
      match read value with
      | .ok result => .ok (some result)
      | .error problem => .error ⟨name, problem, some value⟩

/-- Reads a text. -/
def textOf : Json → Except ArgumentProblem Text
  | .string text => .ok text
  | _ => .error .notText

/-- Reads an order. -/
def orderOf : Json → Except ArgumentProblem ActionOrder
  | .string text =>
      if text = ActionOrder.grouped.word then .ok .grouped
      else if text = ActionOrder.source.word then .ok .source
      else .error .unknownOrder
  | _ => .error .unknownOrder

/-- The words that turn a switch on. -/
def yesWords : List Text :=
  ["1", "on", "t", "true", "y", "yes"]

/-- The words that turn a switch off. -/
def noWords : List Text :=
  ["0", "off", "f", "false", "n", "no"]

/-- The truth value of an integer. Beyond 64 bits an integer is no switch at all. -/
def switchOfInt (number : Int) : Except ArgumentProblem Bool :=
  if number = 1 then .ok true
  else if number = 0 then .ok false
  else if -0x8000000000000000 ≤ number && number < 0x8000000000000000 then .error .unclearSwitch
  else .error .notSwitch

/-- Reads a switch. -/
def switchOf : Json → Except ArgumentProblem Bool
  | .bool value => .ok value
  | .string text =>
      let word := Text.lowercaseAscii text
      if yesWords.contains word then .ok true
      else if noWords.contains word then .ok false
      else .error .unclearSwitch
  | .number (.integer number) => switchOfInt number
  | .number (.real number) =>
      match number.toInt? with
      | some integer =>
          if integer = -0x8000000000000000 then .error .notSwitch else switchOfInt integer
      | none => .error .notSwitch
  | _ => .error .notSwitch

/-! ### Requests -/

/-- What a tool is asked to do. -/
inductive Request where
  | validateSyntax (source : Text)
  | compile (source classpath : Text)
  | validateSpec (report feature : Text)
  | extractActions (source : Text) (method? : Option Text) (order? : Option ActionOrder)
  | buildPlan (source : Text) (method? : Option Text) (order? : Option ActionOrder)
      (baseUrl? : Option Text) (write? : Option Bool)
  deriving DecidableEq, Repr

/-- The tool that a request is for. -/
def Request.tool : Request → Tool
  | .validateSyntax _ => .validateSyntax
  | .compile _ _ => .compile
  | .validateSpec _ _ => .validateSpec
  | .extractActions _ _ _ => .extractActions
  | .buildPlan _ _ _ _ _ => .buildPlan

/-- The fields that have a value. -/
def presentFields (fields : List (Text × Option Json)) : List (Text × Json) :=
  fields.filterMap fun (name, value?) => value?.map (Json.field name)

/-- All arguments of a request in their plainest form, with or without a value. -/
def Request.fields : Request → List (Text × Option Json)
  | .validateSyntax source => [("java_path", some (.string source))]
  | .compile source classpath =>
      [("java_path", some (.string source)), ("classpath", some (.string classpath))]
  | .validateSpec report feature =>
      [("txt_path", some (.string report)), ("feature", some (.string feature))]
  | .extractActions source method? order? =>
      [("java_path", some (.string source)), ("test_name", method?.map .string),
        ("order", order?.map fun order => .string order.word)]
  | .buildPlan source method? order? baseUrl? write? =>
      [("java_path", some (.string source)), ("test_name", method?.map .string),
        ("order", order?.map fun order => .string order.word),
        ("base_url", baseUrl?.map .string), ("write", write?.map .bool)]

/-- The plainest arguments that ask for a request. -/
def Request.arguments (request : Request) : List (Text × Json) :=
  presentFields request.fields

/-- The fault of an argument, if it has one. -/
def faultOf {Value : Type} : Read Value → List ArgumentFault
  | .ok _ => []
  | .error fault => [fault]

/-- Reads the arguments of a tool; all their faults are told. -/
def Request.read (tool : Tool) (arguments : List (Text × Json)) :
    Except (List ArgumentFault) Request :=
  let source := readText arguments "java_path"
  let method := readOptional textOf arguments "test_name"
  let order := readOptional orderOf arguments "order"
  match tool with
  | .validateSyntax =>
      match source with
      | .ok source => .ok (.validateSyntax source)
      | source => .error (faultOf source)
  | .compile =>
      match source, readTextOr [] arguments "classpath" with
      | .ok source, .ok classpath => .ok (.compile source classpath)
      | source, classpath => .error (faultOf source ++ faultOf classpath)
  | .validateSpec =>
      match readText arguments "txt_path", readText arguments "feature" with
      | .ok report, .ok feature => .ok (.validateSpec report feature)
      | report, feature => .error (faultOf report ++ faultOf feature)
  | .extractActions =>
      match source, method, order with
      | .ok source, .ok method?, .ok order? => .ok (.extractActions source method? order?)
      | source, method, order => .error (faultOf source ++ faultOf method ++ faultOf order)
  | .buildPlan =>
      match source, method, order, readOptional textOf arguments "base_url",
          readOptional switchOf arguments "write" with
      | .ok source, .ok method?, .ok order?, .ok baseUrl?, .ok write? =>
          .ok (.buildPlan source method? order? baseUrl? write?)
      | source, method, order, baseUrl, write =>
          .error
            (faultOf source ++ faultOf method ++ faultOf order ++ faultOf baseUrl ++
              faultOf write)

end BrowserPlan
