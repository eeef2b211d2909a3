/-
This file applies the rules that count to a report that is given as a document.

In a document the number of a case may be any value that is not made of parts. Two such values
are the same if they are equal as numbers, for which the truth values stand too, or otherwise
if they are written alike; a repeated one is shown as it stands.
-/

import BrowserPlan.Json.Spelling
import BrowserPlan.Report.Rule

namespace BrowserPlan

/-! ### Values as keys -/

/-- What a value without parts is compared by. -/
inductive Json.Key where
  | null
  | number (value : Number)
  | string (text : Text)
  deriving DecidableEq, Repr

/-- A number with its value as an integer if it has one. -/
def Number.normal : Number → Number
  | .integer value => .integer value
  | .real value =>
      match value.toInt? with
      | some whole => .integer whole
      | none => .real value

/-- What a value is compared by, unless it is made of parts. -/
def Json.key? : Json → Option Json.Key
  | .null => some .null
  | .bool value => some (.number (.integer (if value then 1 else 0)))
  | .number value => some (.number value.normal)
  | .string text => some (.string text)
  | .array _ | .object _ => none

/-- Whether a floating-point number is less than an integer. -/
def Binary64.isBelow (number : Binary64) (bound : Int) : Bool :=
  let size : Int := if number.isNegative then -number.significand else number.significand
  if number.isSpecial then number.fraction = 0 && number.isNegative
  else if 0 ≤ number.power then size * Nat.pow 2 number.power.toNat < bound
  else size < bound * Nat.pow 2 (-number.power).toNat

/-- Whether a value is less than an integer, if it can be compared with one. -/
def Json.isBelow? (bound : Int) : Json → Option Bool
  | .bool value => some ((if value then 1 else 0) < bound)
  | .number (.integer value) => some (value < bound)
  | .number (.real value) => some (value.isBelow bound)
  | _ => none

namespace Report

/-! ### Reading the document -/

/-- Why the rules cannot be applied to a document. -/
inductive DocumentFault where
  | noFields (kind : Kind)
  | noId
  | noKey (kind : Kind)
  | noCount (kind : Kind)
  deriving DecidableEq, Repr

/-- A fault in words. -/
def DocumentFault.message : DocumentFault → Text
  | .noFields kind => "'" ++ kind.text ++ "' object has no attribute 'get'"
  | .noId => "'id'"
  | .noKey kind => "unhashable type: '" ++ kind.text ++ "'"
  | .noCount kind =>
      "'<' not supported between instances of '" ++ kind.text ++ "' and 'int'"

/-- What a value is compared by; one that is made of parts is a fault. -/
def readKey (value : Json) : Except DocumentFault Json.Key :=
  match value.key? with
  | some key => .ok key
  | none => .error (.noKey value.kind)

/-- The category that a case is in; a case without one is in none. -/
def readCategory (case : Json) : Except DocumentFault (Option Category) := do
  match case with
  | .object _ =>
      let key ← readKey ((case.field? "category").getD .null)
      return Category.all.find? fun category => key = .string category.word
  | other => throw (.noFields other.kind)

/-- The number of a case: what it is compared by, and the value that is shown. -/
def readId (case : Json) : Except DocumentFault (Json.Key × Json) := do
  match case.field? "id" with
  | some id => return (← readKey id, id)
  | none => throw .noId

/-- What the rules see of the cases of a document. -/
def readEntries (cases : List Json) :
    Except DocumentFault (List (CaseEntry (Json.Key × Json))) := do
  let categories ← cases.mapM readCategory
  let ids ← cases.mapM readId
  return (ids.zip categories).map fun (id, category?) => { id, category? }

/-! ### Applying the rules -/

/-- What the rules find wrong with the parts of a document. -/
def documentErrors (cases : List Json) (code : Text) (testCount : Json) :
    Except DocumentFault (List Text) := do
  let entries ← readEntries cases
  if (testCount.isBelow? leastTests).isNone then throw (.noCount testCount.kind)
  let isFew (count : Json) : Bool := (count.isBelow? leastTests).getD false
  let errors := ruleErrors Prod.fst isFew entries code testCount
  return errors.map (RuleError.message (fun id => id.2.nameText) Json.spell)

end Report

end BrowserPlan
