/-
This file offers the tools as functions with named parameters. A function has the arguments of
its tool as parameters, but a plan is always written as the settings say. A call must give
every parameter that is required and none that the function does not have.
-/

import BrowserPlan.Tool.Handler

namespace BrowserPlan

/-- The parameters that a function requires. -/
def Tool.required : Tool → List Text
  | .validateSpec => ["txt_path", "feature"]
  | _ => ["java_path"]

/-- The parameters of a function, those that are required first. -/
def Tool.parameters (tool : Tool) : List Text :=
  tool.required ++
    match tool with
    | .validateSyntax | .validateSpec => []
    | .compile => ["classpath"]
    | .extractActions => ["test_name", "order"]
    | .buildPlan => ["base_url", "test_name", "order"]

/-- Why a function cannot be called. -/
inductive CallFault where
  | unexpected (tool : Tool) (argument : Text)
  | missing (tool : Tool) (first : Text) (others : List Text)
  deriving DecidableEq, Repr

/-- Names between quotes, with the last one joined by `and`. -/
def enumerate (first : Text) : List Text → Text
  | [] => Json.spellString first
  | [second] => Json.spellString first ++ " and " ++ Json.spellString second
  | second :: others =>
      Text.join ", " ((first :: second :: others.dropLast).map Json.spellString) ++ ", and " ++
        Json.spellString (others.getLast?.getD [])

/-- A fault in words. -/
def CallFault.message : CallFault → Text
  | .unexpected tool argument =>
      tool.name ++ "() got an unexpected keyword argument '" ++ argument ++ "'"
  | .missing tool first others =>
      let count := others.length + 1
      tool.name ++ "() missing " ++ Text.ofNat count ++ " required positional argument" ++
        (if count = 1 then [] else ['s']) ++ ": " ++ enumerate first others

/-- Why a call does not fit the parameters of a function, if it does not. -/
def Tool.callFault? (tool : Tool) (arguments : List (Text × Json)) : Option CallFault :=
  match arguments.find? fun argument => !tool.parameters.contains argument.1 with
  | some argument => some (.unexpected tool argument.1)
  | none =>
      match tool.required.filter fun name => (Json.fieldOf? name arguments).isNone with
      | [] => none
      | first :: others => some (.missing tool first others)

/-- What a parameter stands for that is not given. -/
def parameterDefault (name : Text) : Json :=
  if name = "classpath" then .string [] else .null

/-- The arguments that a function passes on: all of its parameters, whether they were given or
not. -/
def Tool.passedOn (tool : Tool) (arguments : List (Text × Json)) : List (Text × Json) :=
  tool.parameters.map fun name =>
    Json.field name ((Json.fieldOf? name arguments).getD (parameterDefault name))

/-- Calls the function of a tool. -/
def callFunction {Files : Type} [Disk Files] (setup : Setup) (tool : Tool)
    (arguments : List (Text × Json)) (world : World Files) :
    Except CallFault (Json × World Files) :=
  match tool.callFault? arguments with
  | some fault => .error fault
  | none => .ok (callTool setup tool.name (tool.passedOn arguments) world)

end BrowserPlan
