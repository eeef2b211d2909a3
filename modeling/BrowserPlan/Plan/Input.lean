/-
This file says which documents a plan can be made from.

A document is an object whose test methods are an array of objects, each with a name, which is
a text, and actions, which are an array of objects, each with a type, which is a text. If a
document has several faults, the shallowest is told, and of those the last in the document,
where the name of a method counts as later than its actions. There must be a test method.
-/

import BrowserPlan.Plan.Basic

namespace BrowserPlan

/-! ### Faults of a document -/

/-- What is wrong at a place of a document. -/
inductive DocumentProblem where
  | notOfType (value : Json) (type : Text)
  | missing (field : Text)

/-- A part of a path into a document. -/
inductive PathPart where
  | field (name : Text)
  | index (position : Nat)
  deriving DecidableEq, Repr

/-- A problem and the path to the place where it is. -/
structure DocumentFault where
  path : List PathPart
  problem : DocumentProblem

/-- A problem in words. -/
def DocumentProblem.message : DocumentProblem → Text
  | .notOfType value type => value.spell ++ " is not of type '" ++ type ++ "'"
  | .missing field => "'" ++ field ++ "' is a required property"

/-- The faults of a value that must be an object with the given fields; `inside` gives the
faults of what is in those that are there. -/
def objectFaults (path : List PathPart) (required : List Text)
    (inside : List (Text × Json) → List DocumentFault) : Json → List DocumentFault
  | .object fields =>
      (required.filter fun name => (Json.fieldOf? name fields).isNone).map
          (fun name => ⟨path, .missing name⟩) ++
        inside fields
  | value => [⟨path, .notOfType value "object"⟩]

/-- The faults of a value that must be a text. -/
def textFaults (path : List PathPart) : Json → List DocumentFault
  | .string _ => []
  | value => [⟨path, .notOfType value "string"⟩]

/-- The faults of a value that must be an array; `item` gives the faults of an item. -/
def arrayFaults (path : List PathPart) (item : List PathPart → Json → List DocumentFault) :
    Json → List DocumentFault
  | .array items =>
      items.zipIdx.flatMap fun (value, position) => item (path ++ [.index position]) value
  | value => [⟨path, .notOfType value "array"⟩]

/-- The faults of the named field, if it is there. -/
def fieldFaults (path : List PathPart) (name : Text)
    (check : List PathPart → Json → List DocumentFault) (fields : List (Text × Json)) :
    List DocumentFault :=
  match Json.fieldOf? name fields with
  | some value => check (path ++ [.field name]) value
  | none => []

/-- The faults of an action. -/
def actionFaults (path : List PathPart) : Json → List DocumentFault :=
  objectFaults path ["type"] (fieldFaults path "type" textFaults)

/-- The faults of a test method. -/
def methodFaults (path : List PathPart) : Json → List DocumentFault :=
  objectFaults path ["name", "actions"] fun fields =>
    fieldFaults path "name" textFaults fields ++
      fieldFaults path "actions" (fun path => arrayFaults path actionFaults) fields

/-- The faults of a document. -/
def documentFaults : Json → List DocumentFault :=
  objectFaults [] ["testMethods"]
    (fieldFaults [] "testMethods" fun path => arrayFaults path methodFaults)

/-! ### The fault that is told -/

/-- Whether the first part comes before the second in a document. -/
def PathPart.before : PathPart → PathPart → Bool
  | .index first, .index second => first < second
  | .field first, .field second => first < second
  | .index _, .field _ => true
  | .field _, .index _ => false

/-- Whether the first path comes before the second in a document. -/
def pathBefore : List PathPart → List PathPart → Bool
  | _, [] => false
  | [], _ :: _ => true
  | first :: firsts, second :: seconds =>
      first.before second || (first = second && pathBefore firsts seconds)

/-- Whether the second fault is rather told than the first. -/
def DocumentFault.yieldsTo (first second : DocumentFault) : Bool :=
  second.path.length < first.path.length ||
    (second.path.length = first.path.length && pathBefore first.path second.path)

/-- The fault that is told. -/
def toldFault? (faults : List DocumentFault) : Option DocumentFault :=
  faults.foldl
    (fun told fault =>
      match told with
      | none => some fault
      | some best => if best.yieldsTo fault then some fault else some best)
    none

/-! ### Reading a document for a plan -/

/-- Why no plan can be made from a document. -/
inductive PlanInputError where
  | invalid (problem : DocumentProblem)
  | noMethods

/-- An error in words. -/
def PlanInputError.message : PlanInputError → Text
  | .invalid problem => "Invalid extraction document: " ++ problem.message
  | .noMethods => "No testMethods found in input"

/-- Why no plan comes of a document. A document without faults has the shape that reading
needs, so the second case does not occur. -/
inductive PlanFailure where
  | input (error : PlanInputError)
  | shape (fault : ShapeFault)

/-- A failure in words. -/
def PlanFailure.message : PlanFailure → Text
  | .input error => error.message
  | .shape fault => fault.message

/-- Reads a document from which a plan can be made. -/
def Extraction.load (document : Json) : Except PlanFailure Extraction :=
  match toldFault? (documentFaults document) with
  | some fault => .error (.input (.invalid fault.problem))
  | none =>
      if ((document.field? "testMethods").bind Json.array?).all List.isEmpty then
        .error (.input .noMethods)
      else (Extraction.ofJson document).mapError .shape

/-- The plan of a document. -/
def planOfDocument (document : Json) (origin : PlanOrigin) (target : PlanTarget) :
    Except PlanFailure Plan :=
  (Extraction.load document).map fun extraction => extraction.plan origin target

end BrowserPlan
