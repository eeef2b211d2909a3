/-
This file holds the values that documents, requests and answers are made of.

An object keeps its fields in the order in which they came, because that order shows in
printed documents; a field name occurs once. Integers have any size and are kept apart from
floating-point numbers.
-/

import BrowserPlan.Decimal.Shortest

namespace BrowserPlan

/-- A number of a document: an integer of any size or a floating-point number. -/
inductive Number where
  | integer (value : Int)
  | real (value : Binary64)
  deriving DecidableEq, Repr, Inhabited

/-- A value of a document. -/
inductive Json where
  | null
  | bool (value : Bool)
  | number (value : Number)
  | string (text : Text)
  | array (items : List Json)
  | object (fields : List (Text × Json))
  deriving Inhabited, Repr

/-- The seven kinds of values. -/
inductive Kind where
  | null
  | bool
  | integer
  | real
  | string
  | array
  | object
  deriving DecidableEq, Repr

/-! ### Numbers -/

/-- A number in words: an integer in its digits, any other in its shortest form. -/
def Number.toText : Number → Text
  | .integer value => Text.ofInt value
  | .real value => value.toText

/-- Whether a number is zero. -/
def Number.isZero : Number → Bool
  | .integer value => value == 0
  | .real value => value.isZero

namespace Json

/-! ### Making values -/

/-- A whole number as a value. -/
def ofInt (value : Int) : Json :=
  .number (.integer value)

/-- A count as a value. -/
def ofNat (value : Nat) : Json :=
  ofInt value

/-- A list of texts as a value. -/
def strings (texts : List Text) : Json :=
  .array (texts.map .string)

/-- A field with its value. -/
def field (name : Text) (value : Json) : Text × Json :=
  (name, value)

/-- A field that holds a text. -/
def textField (name text : Text) : Text × Json :=
  (name, .string text)

/-- A text, or null where there is none. -/
def ofText? : Option Text → Json
  | some text => .string text
  | none => .null

/-! ### Taking values apart -/

/-- The kind of a value. -/
def kind : Json → Kind
  | .null => .null
  | .bool _ => .bool
  | .number (.integer _) => .integer
  | .number (.real _) => .real
  | .string _ => .string
  | .array _ => .array
  | .object _ => .object

/-- The value of the named field, where fields are given in order. -/
def fieldOf? (name : Text) : List (Text × Json) → Option Json
  | [] => none
  | (other, value) :: fields => if other = name then some value else fieldOf? name fields

/-- The value of the named field of an object. -/
def field? (name : Text) : Json → Option Json
  | .object fields => fieldOf? name fields
  | _ => none

/-- The text that a value is, if it is one. -/
def string? : Json → Option Text
  | .string text => some text
  | _ => none

/-- The items of a value, if it is a list. -/
def array? : Json → Option (List Json)
  | .array items => some items
  | _ => none

/-- The fields of a value, if it is an object. -/
def object? : Json → Option (List (Text × Json))
  | .object fields => some fields
  | _ => none

/-- Whether a value counts as given: null, false, zero and everything empty do not. -/
def isGiven : Json → Bool
  | .null => false
  | .bool value => value
  | .number value => !value.isZero
  | .string text => !text.isEmpty
  | .array items => !items.isEmpty
  | .object fields => !fields.isEmpty

/-- Whether a number is one of the special floating-point numbers. -/
def isSpecial : Json → Bool
  | .number (.real value) => value.isSpecial
  | _ => false

mutual

/-- Whether a value is or holds one of the special floating-point numbers. -/
def holdsSpecial : Json → Bool
  | .array items => itemsHoldSpecial items
  | .object fields => fieldsHoldSpecial fields
  | value => value.isSpecial

/-- Whether one of the items holds a special number. -/
def itemsHoldSpecial : List Json → Bool
  | [] => false
  | item :: items => item.holdsSpecial || itemsHoldSpecial items

/-- Whether the value of a field holds a special number. -/
def fieldsHoldSpecial : List (Text × Json) → Bool
  | [] => false
  | (_, value) :: fields => value.holdsSpecial || fieldsHoldSpecial fields

end

/-- The fields with one more: a name that is there keeps its place and takes the new value. -/
def putField (name : Text) (value : Json) : List (Text × Json) → List (Text × Json)
  | [] => [(name, value)]
  | (other, old) :: fields =>
      if other = name then (other, value) :: fields else (other, old) :: putField name value fields

end Json

end BrowserPlan
