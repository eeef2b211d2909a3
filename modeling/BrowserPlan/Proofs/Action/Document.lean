/-
This file proves that nothing is lost between recognising actions and planning them: the
document in between gives back what was written into it.

A record that cannot be read is kept whole under the name of its type. Read again it must stay
what it is, which holds of whatever reading has given before: its fields are without a type and
cannot be read. So an extraction that was recognised or read is settled, and a settled one comes
back as it is. A document that was written has no faults, and so its plan is the plan of what was
written.
-/

import BrowserPlan.Action.Extraction
import BrowserPlan.Plan.Input
import BrowserPlan.Proofs.Except
import BrowserPlan.Proofs.Text.Search

namespace BrowserPlan

/-! ### What may come of a reader -/

section Outcomes

variable {Value Result : Type} {holds : Result → Prop}

theorem forall_mem_bind {found : Option Value} {next : Value → Option Result}
    (always : ∀ value, ∀ result ∈ next value, holds result) :
    ∀ result ∈ found >>= next, holds result := by
  intro result member
  obtain ⟨value, _, given⟩ := Option.bind_eq_some_iff.mp member
  exact always value result given

theorem forall_mem_map {found : Option Value} {make : Value → Result}
    (always : ∀ value, holds (make value)) : ∀ result ∈ found.map make, holds result := by
  intro result member
  obtain ⟨value, _, rfl⟩ := Option.map_eq_some_iff.mp member
  exact always value

theorem forall_mem_pure {result : Result} (here : holds result) :
    ∀ other ∈ (pure result : Option Result), holds other := by
  rintro other ⟨⟩
  exact here

theorem forall_mem_ite {condition : Prop} [Decidable condition] {first second : Option Result}
    (always : ∀ result ∈ first, holds result) (otherwise : ∀ result ∈ second, holds result) :
    ∀ result ∈ (if condition then first else second), holds result := by
  split
  · exact always
  · exact otherwise

theorem forall_mem_none : ∀ result ∈ (none : Option Result), holds result := by
  rintro result ⟨⟩

end Outcomes

/-! ### Actions that reading gives -/

/-- Whether an action is of a known kind. -/
def Action.IsKnown : Action → Prop
  | .unknown _ _ => False
  | _ => True

/-- Whether reading can give an action: a record is only kept whole if its fields, which are
without a type, cannot be read. -/
def Action.Settled : Action → Prop
  | .unknown type fields =>
      (∀ field ∈ fields, field.1 ≠ ("type" : Text)) ∧ Action.ofFields? type fields = none
  | _ => True

/-- A record of a known action is read as this action again. -/
theorem Action.IsKnown.settled {action : Action} (known : action.IsKnown) : action.Settled := by
  cases action with
  | unknown => exact known.elim
  | _ => trivial

/-- The fields of a record only make known actions. -/
theorem Action.isKnown_of_ofFields? (type : Text) (fields : List (Text × Json)) :
    ∀ action ∈ Action.ofFields? type fields, action.IsKnown := by
  have one (make : Text → Action) (known : ∀ text, (make text).IsKnown) (found : Option Text) :
      ∀ action ∈ found.map make, action.IsKnown :=
    forall_mem_map known
  have two (make : Text → Text → Action) (known : ∀ first second, (make first second).IsKnown)
      (found other : Option Text) :
      ∀ action ∈ (do return make (← found) (← other) : Option Action), action.IsKnown :=
    forall_mem_bind fun first => forall_mem_bind fun second => forall_mem_pure (known first second)
  unfold ofFields?
  refine forall_mem_ite (one .navigate (fun _ => trivial) _) ?_
  refine forall_mem_ite (one .click (fun _ => trivial) _) ?_
  refine forall_mem_ite (two .fill (fun _ _ => trivial) _ _) ?_
  refine forall_mem_ite (one .clear (fun _ => trivial) _) ?_
  refine forall_mem_ite (one .getText (fun _ => trivial) _) ?_
  refine forall_mem_ite (forall_mem_bind fun _ => ?_) ?_
  · split
    · exact forall_mem_pure trivial
    · exact forall_mem_pure trivial
    · exact forall_mem_pure trivial
    · exact forall_mem_none
  refine forall_mem_ite (two .assertText (fun _ _ => trivial) _ _) ?_
  refine forall_mem_ite (one .assertTrue (fun _ => trivial) _) ?_
  refine forall_mem_ite (one .assertFalse (fun _ => trivial) _) ?_
  exact forall_mem_ite (one .countElements (fun _ => trivial) _) forall_mem_none

/-- An action that keeps its record as it is can be read back. -/
theorem Action.settled_ofRecord (record : List (Text × Json)) :
    (Action.ofRecord record).Settled := by
  unfold ofRecord
  extract_lets type fields
  cases read : ofFields? type fields with
  | some action => exact (isKnown_of_ofFields? type fields action read).settled
  | none =>
    refine ⟨fun field member => ?_, read⟩
    exact of_decide_eq_true (List.mem_filter.mp member).2

/-- A settled action is read from its own record. -/
theorem Action.ofJson_toJson {action : Action} (settled : action.Settled) :
    Action.ofJson action.toJson = .ok action := by
  cases action with
  | unknown type fields =>
    obtain ⟨untyped, unreadable⟩ := settled
    have kept : (Json.textField "type" type :: fields).filter
        (fun field => field.1 ≠ ("type" : Text)) = fields := by
      rw [List.filter_cons_of_neg, List.filter_eq_self]
      · exact fun field member => decide_eq_true (untyped field member)
      · exact fun other => of_decide_eq_true other rfl
    have read : Action.ofRecord (Json.textField "type" type :: fields) = .unknown type fields := by
      unfold ofRecord
      rw [kept]
      show (ofFields? type fields).getD (.unknown type fields) = _
      rw [unreadable]
      rfl
    exact congrArg Except.ok read
  | wait selector condition => cases condition <;> rfl
  | _ => rfl

/-! ### Actions that are recognised -/

/-- The construct that an action of a known kind is recognised by. -/
def Action.construct? : Action → Option Construct
  | .navigate _ => some .navigate
  | .click _ => some .click
  | .fill _ _ => some .fill
  | .clear _ => some .clear
  | .getText _ => some .getText
  | .wait _ _ => some .wait
  | .assertText _ _ => some .assertText
  | .assertTrue _ => some .assertTrue
  | .assertFalse _ => some .assertFalse
  | .countElements _ => some .countElements
  | .unknown _ _ => none

theorem Action.isKnown_of_construct? {action : Action} {construct : Construct}
    (recognised : action.construct? = some construct) : action.IsKnown := by
  cases action with
  | unknown => cases recognised
  | _ => trivial

/-- The action of a finding, if there is one, is one of the construct. -/
def Construct.Finds (construct : Construct) (found : Option Action × Text) : Prop :=
  ∀ action ∈ found.1, action.construct? = some construct

theorem Construct.finds_some {construct : Construct} {action : Action}
    (same : action.construct? = some construct) (rest : Text) :
    construct.Finds (some action, rest) := by
  rintro other ⟨⟩
  exact same

/-- Whatever a construct reads is an action of its own. -/
theorem Construct.finds_read (construct : Construct) (before : Option Char) (text : Text) :
    ∀ found ∈ construct.read before text, construct.Finds found := by
  have acted {found : Option (Action × Text)}
      (same : ∀ result ∈ found, result.1.construct? = some construct) :
      ∀ result ∈ found.map fun result => (some result.1, result.2), construct.Finds result := by
    intro result member
    obtain ⟨⟨action, rest⟩, given, rfl⟩ := Option.map_eq_some_iff.mp member
    exact finds_some (same _ given) rest
  have onElement (method : Text) (make : Text → Action)
      (same : ∀ text, (make text).construct? = some construct) :
      ∀ result ∈ ((readElementCall method text).map fun found =>
        (make found.1, found.2)).map fun result => (some result.1, result.2),
          construct.Finds result :=
    acted (forall_mem_map fun found => same found.1)
  cases construct with
  | navigate =>
    exact acted (forall_mem_ite forall_mem_none
      (forall_mem_bind fun _ => forall_mem_bind fun _ => forall_mem_bind fun _ =>
        forall_mem_bind fun _ => forall_mem_pure rfl))
  | fill =>
    exact acted (forall_mem_bind fun _ => forall_mem_bind fun _ => forall_mem_bind fun _ =>
      forall_mem_bind fun _ => forall_mem_pure rfl)
  | clear => exact onElement "clear" .clear fun _ => rfl
  | click => exact onElement "click" .click fun _ => rfl
  | getText => exact onElement "getText" .getText fun _ => rfl
  | assertText =>
    exact acted (forall_mem_bind fun _ => forall_mem_bind fun _ => forall_mem_bind fun _ =>
      forall_mem_bind fun _ => forall_mem_bind fun _ => forall_mem_pure rfl)
  | assertTrue =>
    refine forall_mem_map fun found => forall_mem_ite forall_mem_none ?_
    exact finds_some rfl found.2
  | assertFalse => exact forall_mem_map fun found => finds_some rfl found.2
  | wait =>
    exact acted (forall_mem_bind fun _ => forall_mem_bind fun _ => forall_mem_bind fun _ =>
      forall_mem_bind fun _ => forall_mem_bind fun _ => forall_mem_bind fun _ =>
        forall_mem_pure rfl)
  | countElements =>
    exact acted (forall_mem_bind fun _ => forall_mem_bind fun _ => forall_mem_bind fun _ =>
      forall_mem_pure rfl)

/-- Every finding comes from reading some end of the text. -/
theorem Construct.exists_read_of_mem_findAll {construct : Construct} {text : Text}
    {position : Nat} {action : Action} (found : (position, action) ∈ construct.findAll text) :
    ∃ before part rest, part <:+ text ∧
      construct.read before part = some (some action, rest) := by
  obtain ⟨⟨start, outcome⟩, member, kept⟩ := List.mem_filterMap.mp found
  obtain ⟨before, part, rest, isSuffix, read⟩ := Text.exists_of_mem_findFrom member
  obtain ⟨given, rfl, equal⟩ := Option.map_eq_some_iff.mp kept
  obtain rfl := congrArg Prod.snd equal
  exact ⟨before, part, rest, isSuffix, read⟩

theorem Construct.construct?_of_mem_findAll {construct : Construct} {text : Text} {position : Nat}
    {action : Action} (found : (position, action) ∈ construct.findAll text) :
    action.construct? = some construct := by
  obtain ⟨before, part, rest, _, read⟩ := exists_read_of_mem_findAll found
  exact construct.finds_read before part _ read action rfl

theorem Construct.mem_all (construct : Construct) : construct ∈ Construct.all := by
  cases construct <;> decide

/-- The order has no say in what is recognised in a body. -/
theorem mem_actionsOfBody_iff {body : Text} {order : ActionOrder} {action : Action} :
    action ∈ actionsOfBody body order ↔ ∃ (construct : Construct) (position : Nat),
      (position, action) ∈ construct.findAll (Java.masked .commentsOnly body) := by
  have unordered : action ∈ actionsOfBody body order ↔
      ∃ found ∈ findActions (Java.masked .commentsOnly body), found.2 = action := by
    refine Iff.trans List.mem_map ?_
    cases order with
    | grouped => exact Iff.rfl
    | source => simp only [List.mem_mergeSort]
  rw [unordered]
  constructor
  · rintro ⟨⟨position, _⟩, found, rfl⟩
    obtain ⟨construct, _, here⟩ := List.mem_flatMap.mp found
    exact ⟨construct, position, here⟩
  · rintro ⟨construct, position, here⟩
    exact ⟨(position, action), List.mem_flatMap.mpr ⟨construct, construct.mem_all, here⟩, rfl⟩

/-- A body has known actions only. -/
theorem isKnown_of_mem_actionsOfBody {body : Text} {order : ActionOrder} {action : Action}
    (member : action ∈ actionsOfBody body order) : action.IsKnown := by
  obtain ⟨construct, position, here⟩ := mem_actionsOfBody_iff.mp member
  exact Action.isKnown_of_construct? (Construct.construct?_of_mem_findAll here)

/-! ### Lists of records -/

section Lists

variable {Value Result : Type} {read : Json → Except ShapeFault Value}

theorem mapM_map_write {write : Value → Json} {values : List Value}
    (back : ∀ value ∈ values, read (write value) = .ok value) :
    (values.map write).mapM read = .ok values := by
  rw [mapM_map_eq_ok back, List.map_id']

/-- Reads the named field, a list of records, and makes something of what it holds. -/
def readList (name : Text) (read : Json → Except ShapeFault Value) (make : List Value → Result)
    (fields : List (Text × Json)) : Except ShapeFault Result := do
  return make (← (← Json.itemsOf name fields).mapM read)

/-- A list that was written item by item is read back, if each item is. -/
theorem readList_of_written {name : Text} {write : Value → Json} {make : List Value → Result}
    {values : List Value} {fields : List (Text × Json)}
    (given : Json.fieldOf? name fields = some (.array (values.map write)))
    (back : ∀ value ∈ values, read (write value) = .ok value) :
    readList name read make fields = .ok (make values) := by
  have items : Json.itemsOf name fields = .ok (values.map write) := by
    rw [Json.itemsOf, given]
    cases values <;> rfl
  have whole : (values.map write).mapM read = .ok values := mapM_map_write back
  rw [readList, items]
  show (values.map write).mapM read >>= _ = _
  rw [whole]
  rfl

/-- Each value of a list that was read comes from an item. -/
theorem exists_of_readList {name : Text} {make : List Value → Result} {result : Result}
    {fields : List (Text × Json)} (done : readList name read make fields = .ok result) :
    ∃ values, result = make values ∧ ∀ value ∈ values, ∃ item, read item = .ok value := by
  obtain ⟨items, _, done⟩ := exists_of_bind_eq_ok done
  obtain ⟨values, whole, done⟩ := exists_of_bind_eq_ok done
  cases done
  refine ⟨values, rfl, fun value member => ?_⟩
  obtain ⟨item, _, given⟩ := (mem_iff_of_mapM whole).mp member
  exact ⟨item, given⟩

end Lists

/-! ### What is written is read -/

/-- Whether reading can give a test method. -/
def TestMethod.Settled (method : TestMethod) : Prop :=
  ∀ action ∈ method.actions, action.Settled

/-- Whether reading can give an extraction. -/
def Extraction.Settled (extraction : Extraction) : Prop :=
  ∀ method ∈ extraction.methods, method.Settled

theorem TestMethod.ofJson_toJson {method : TestMethod} (settled : method.Settled) :
    TestMethod.ofJson method.toJson = .ok method := by
  have read : readList "actions" Action.ofJson (TestMethod.mk method.name)
      [("name", .string method.name), ("actions", .array (method.actions.map Action.toJson))] =
        .ok method :=
    readList_of_written rfl fun action member => Action.ofJson_toJson (settled action member)
  exact read

/-- A document is read back, if the actions in it are. -/
theorem Extraction.ofJson_toJson {extraction : Extraction} (settled : extraction.Settled) :
    Extraction.ofJson extraction.toJson = .ok extraction := by
  have read : readList "testMethods" TestMethod.ofJson Extraction.mk
      [("testMethods", .array (extraction.methods.map TestMethod.toJson))] = .ok extraction :=
    readList_of_written rfl fun method member => TestMethod.ofJson_toJson (settled method member)
  exact read

/-! ### What is read or recognised is settled -/

theorem Action.settled_of_ofJson {value : Json} {action : Action}
    (read : Action.ofJson value = .ok action) : action.Settled := by
  cases value with
  | object record =>
    cases read
    exact settled_ofRecord record
  | _ => cases read

theorem TestMethod.settled_of_ofJson {value : Json} {method : TestMethod}
    (read : TestMethod.ofJson value = .ok method) : method.Settled := by
  obtain ⟨fields, _, read⟩ := exists_of_bind_eq_ok read
  obtain ⟨actions, rfl, given⟩ := exists_of_readList read
  intro action member
  obtain ⟨item, readItem⟩ := given action member
  exact Action.settled_of_ofJson readItem

/-- What was read from a document can be read back from its own. -/
theorem Extraction.settled_of_ofJson {document : Json} {extraction : Extraction}
    (read : Extraction.ofJson document = .ok extraction) : extraction.Settled := by
  obtain ⟨fields, _, read⟩ := exists_of_bind_eq_ok read
  obtain ⟨methods, rfl, given⟩ := exists_of_readList read
  intro method member
  obtain ⟨item, readItem⟩ := given method member
  exact TestMethod.settled_of_ofJson readItem

/-- What was extracted from a source can be read back from its document. -/
theorem Extraction.settled_ofSource (source : Text) (wanted? : Option Text) (order : ActionOrder) :
    (Extraction.ofSource source wanted? order).Settled := by
  intro method member action inside
  obtain ⟨segment, _, rfl⟩ := List.mem_map.mp member
  exact (isKnown_of_mem_actionsOfBody inside).settled

end BrowserPlan
