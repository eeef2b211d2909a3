/-
This file holds the document that stands between recognising actions and planning them: the
test methods of a source with their actions.

Reading one checks only what it needs, so the faults here are those of a value that is asked
for a field or for items and has none. A field that is missing or empty holds no items.
-/

import BrowserPlan.Action.Basic

namespace BrowserPlan

/-- A test method and what it does. -/
structure TestMethod where
  name : Text
  actions : List Action

/-- The test methods of a source, in order. -/
structure Extraction where
  methods : List TestMethod

/-! ### Faults of shape -/

/-- A value of the wrong kind where fields or items are needed. -/
inductive ShapeFault where
  | noFields (kind : Kind)
  | noItems (kind : Kind)
  deriving DecidableEq, Repr

/-- A fault in words. -/
def ShapeFault.message : ShapeFault → Text
  | .noFields kind => "'" ++ kind.text ++ "' object has no attribute 'get'"
  | .noItems kind => "'" ++ kind.text ++ "' object is not iterable"

namespace Json

/-- The fields of a value that must be an object. -/
def needFields : Json → Except ShapeFault (List (Text × Json))
  | .object fields => .ok fields
  | value => .error (.noFields value.kind)

/-- The items of a value that must hold items: an object gives its field names and a text its
characters. -/
def needItems : Json → Except ShapeFault (List Json)
  | .array items => .ok items
  | .object fields => .ok (fields.map fun field => .string field.1)
  | .string text => .ok (text.map fun char => .string [char])
  | value => .error (.noItems value.kind)

/-- The items of the named field, and none if the field is missing or empty. -/
def itemsOf (name : Text) (fields : List (Text × Json)) : Except ShapeFault (List Json) :=
  match fieldOf? name fields with
  | some value => if value.isGiven then needItems value else .ok []
  | none => .ok []

end Json

/-! ### Reading and writing -/

/-- Reads an action of any shape that has fields. -/
def Action.ofJson (value : Json) : Except ShapeFault Action :=
  value.needFields.map Action.ofRecord

/-- The document of a test method. -/
def TestMethod.toJson (method : TestMethod) : Json :=
  .object [("name", .string method.name), ("actions", .array (method.actions.map Action.toJson))]

/-- Reads the document of a test method; a name that is no text is written as one. -/
def TestMethod.ofJson (value : Json) : Except ShapeFault TestMethod := do
  let fields ← value.needFields
  let name := ((Json.fieldOf? "name" fields).map Json.nameText).getD []
  let actions ← (← Json.itemsOf "actions" fields).mapM Action.ofJson
  return { name, actions }

/-- The document of what was extracted. -/
def Extraction.toJson (extraction : Extraction) : Json :=
  .object [("testMethods", .array (extraction.methods.map TestMethod.toJson))]

/-- Reads the document of what was extracted. -/
def Extraction.ofJson (value : Json) : Except ShapeFault Extraction := do
  let fields ← value.needFields
  let methods ← (← Json.itemsOf "testMethods" fields).mapM TestMethod.ofJson
  return { methods }

end BrowserPlan
