/-
This file proves which documents a plan is made from: those of the grammar of the document, and no
others.

The grammar says of a document what must be there and of which kind it is. Looking for faults and
reading go over the document apart from each other, and reading is content with much less. Here the
two meet: a document has no faults exactly if it is of the grammar, and whatever is of the grammar
can be read and has a plan with one method for each record. So the only failures are the two that a
document itself is to blame for.
-/

import BrowserPlan.Plan.Input
import BrowserPlan.Proofs.Action.Document
import BrowserPlan.Proofs.Plan.Correspondence

namespace BrowserPlan

/-! ### The grammar -/

/-- The value is a text. -/
def Json.IsText (value : Json) : Prop :=
  ∃ text, value = .string text

/-- The value is an array and its items have a property. -/
def Json.IsArrayOf (holds : Json → Prop) (value : Json) : Prop :=
  ∃ items, value = .array items ∧ ∀ item ∈ items, holds item

/-- The value is an object and has a field of the name with a property. -/
def Json.HasField (name : Text) (holds : Json → Prop) (value : Json) : Prop :=
  ∃ inner, value.field? name = some inner ∧ holds inner

/-- An object with a type that is a text. -/
def IsActionRecord : Json → Prop :=
  Json.HasField "type" Json.IsText

/-- An object with a name that is a text and an array of records of actions. -/
def IsMethodRecord (record : Json) : Prop :=
  record.HasField "name" Json.IsText ∧ record.HasField "actions" (Json.IsArrayOf IsActionRecord)

/-- An object with an array of records of test methods. -/
def IsDocument : Json → Prop :=
  Json.HasField "testMethods" (Json.IsArrayOf IsMethodRecord)

/-- A document with at least one test method. -/
def IsInterchange (document : Json) : Prop :=
  IsDocument document ∧ document.field? "testMethods" ≠ some (.array [])

/-! ### No faults -/

section Faults

variable {holds : Json → Prop} {check : List PathPart → Json → List DocumentFault}

/-- An object has no faults just if its required fields are there and there are none inside. -/
theorem objectFaults_eq_nil_iff {path : List PathPart} {required : List Text}
    {inside : List (Text × Json) → List DocumentFault} {value : Json} :
    objectFaults path required inside value = [] ↔
      ∃ fields, value = .object fields ∧ (∀ name ∈ required, Json.fieldOf? name fields ≠ none) ∧
        inside fields = [] := by
  cases value with
  | object fields =>
    rw [objectFaults, List.append_eq_nil_iff, List.map_eq_nil_iff, List.filter_eq_nil_iff]
    simp only [Option.isNone_iff_eq_none, Json.object.injEq, exists_eq_left', ne_eq]
  | _ => simp [objectFaults]

/-- A field that must be there has no faults exactly if it is there and has none. -/
theorem fieldFaults_eq_nil_iff (sound : ∀ path value, check path value = [] ↔ holds value)
    {path : List PathPart} {name : Text} {fields : List (Text × Json)} :
    Json.fieldOf? name fields ≠ none ∧ fieldFaults path name check fields = [] ↔
      Json.HasField name holds (.object fields) := by
  rw [fieldFaults, Json.HasField, Json.field?]
  cases Json.fieldOf? name fields with
  | none => simp
  | some value => simp [sound]

theorem Json.HasField.isObject {name : Text} {value : Json} (has : value.HasField name holds) :
    ∃ fields, value = .object fields := by
  obtain ⟨inner, found, _⟩ := has
  cases value with
  | object fields => exact ⟨fields, rfl⟩
  | _ => cases found

/-- A value that must be an object with one field. -/
theorem objectFaults_field_eq_nil_iff (sound : ∀ path value, check path value = [] ↔ holds value)
    {path : List PathPart} {name : Text} {value : Json} :
    objectFaults path [name] (fieldFaults path name check) value = [] ↔
      value.HasField name holds := by
  rw [objectFaults_eq_nil_iff]
  constructor
  · rintro ⟨fields, rfl, given, none⟩
    exact (fieldFaults_eq_nil_iff sound).mp ⟨given name List.mem_cons_self, none⟩
  · intro has
    obtain ⟨fields, rfl⟩ := has.isObject
    obtain ⟨given, none⟩ := (fieldFaults_eq_nil_iff sound).mpr has
    exact ⟨fields, rfl, List.forall_mem_singleton.mpr given, none⟩

theorem textFaults_eq_nil_iff (path : List PathPart) (value : Json) :
    textFaults path value = [] ↔ value.IsText := by
  cases value <;> simp [textFaults, Json.IsText]

/-- An array has no faults just if each item is as it should be. -/
theorem arrayFaults_eq_nil_iff (sound : ∀ path value, check path value = [] ↔ holds value)
    (path : List PathPart) (value : Json) :
    arrayFaults path check value = [] ↔ value.IsArrayOf holds := by
  cases value with
  | array items =>
    rw [arrayFaults, List.flatMap_eq_nil_iff]
    simp only [sound, Json.IsArrayOf, Json.array.injEq, exists_eq_left']
    constructor
    · intro all item member
      obtain ⟨position, inBounds, rfl⟩ := List.mem_iff_getElem.mp member
      exact all (items[position], position)
        (List.mem_zipIdx_iff_getElem?.mpr (List.getElem?_eq_getElem inBounds))
    · rintro all ⟨item, position⟩ member
      exact all item (List.fst_mem_of_mem_zipIdx member)
  | _ => simp [arrayFaults, Json.IsArrayOf]

end Faults

theorem actionFaults_eq_nil_iff (path : List PathPart) (value : Json) :
    actionFaults path value = [] ↔ IsActionRecord value :=
  objectFaults_field_eq_nil_iff textFaults_eq_nil_iff

theorem methodFaults_eq_nil_iff (path : List PathPart) (value : Json) :
    methodFaults path value = [] ↔ IsMethodRecord value := by
  have actions := arrayFaults_eq_nil_iff actionFaults_eq_nil_iff
  rw [methodFaults, objectFaults_eq_nil_iff]
  constructor
  · rintro ⟨fields, rfl, given, none⟩
    obtain ⟨givenName, givenActions⟩ := List.forall_mem_cons.mp given
    obtain ⟨noneInName, noneInActions⟩ := List.append_eq_nil_iff.mp none
    exact ⟨(fieldFaults_eq_nil_iff textFaults_eq_nil_iff).mp ⟨givenName, noneInName⟩,
      (fieldFaults_eq_nil_iff actions).mp ⟨givenActions _ List.mem_cons_self, noneInActions⟩⟩
  · rintro ⟨hasName, hasActions⟩
    obtain ⟨fields, rfl⟩ := hasName.isObject
    obtain ⟨givenName, noneInName⟩ := (fieldFaults_eq_nil_iff textFaults_eq_nil_iff).mpr hasName
    obtain ⟨givenActions, noneInActions⟩ := (fieldFaults_eq_nil_iff actions).mpr hasActions
    exact ⟨fields, rfl,
      List.forall_mem_cons.mpr ⟨givenName, List.forall_mem_singleton.mpr givenActions⟩,
      List.append_eq_nil_iff.mpr ⟨noneInName, noneInActions⟩⟩

/-- The checks of a document accept exactly its grammar. -/
theorem documentFaults_eq_nil_iff (document : Json) :
    documentFaults document = [] ↔ IsDocument document :=
  objectFaults_field_eq_nil_iff (arrayFaults_eq_nil_iff methodFaults_eq_nil_iff)

/-- What is found once is not lost. -/
theorem foldl_some_ne_none {Found Item : Type} {step : Option Found → Item → Option Found}
    (keeps : ∀ found item, step (some found) item ≠ none) (items : List Item) (found : Found) :
    items.foldl step (some found) ≠ none := by
  induction items generalizing found with
  | nil => exact Option.some_ne_none found
  | cons item items inductionHypothesis =>
    obtain ⟨next, isNext⟩ := Option.ne_none_iff_exists'.mp (keeps found item)
    rw [List.foldl_cons, isNext]
    exact inductionHypothesis next

/-- Of faults one is told, if there are any. -/
theorem toldFault?_eq_none_iff {faults : List DocumentFault} :
    toldFault? faults = none ↔ faults = [] := by
  cases faults with
  | nil => exact ⟨fun _ => rfl, fun _ => rfl⟩
  | cons fault others =>
    have told : toldFault? (fault :: others) ≠ none := by
      refine foldl_some_ne_none (fun best other => ?_) others fault
      dsimp only
      split <;> exact Option.some_ne_none _
    exact ⟨fun none => absurd none told, fun isNil => nomatch isNil⟩

/-! ### Reading a document of the grammar -/

/-- If each item can be read, all of them can. -/
theorem exists_of_forall_read {Value : Type} {read : Json → Except ShapeFault Value}
    (related : Json → Value → Prop) {items : List Json}
    (each : ∀ item ∈ items, ∃ value, read item = .ok value ∧ related item value) :
    ∃ values, items.mapM read = .ok values ∧ List.Forall₂ related items values := by
  induction items with
  | nil => exact ⟨[], rfl, .nil⟩
  | cons item items inductionHypothesis =>
    obtain ⟨⟨value, here, fits⟩, others⟩ := List.forall_mem_cons.mp each
    obtain ⟨values, later, fit⟩ := inductionHypothesis others
    refine ⟨value :: values, ?_, .cons fits fit⟩
    rw [List.mapM_cons, here, later]
    rfl

theorem Json.itemsOf_array {name : Text} {fields : List (Text × Json)} {items : List Json}
    (found : fieldOf? name fields = some (.array items)) : itemsOf name fields = .ok items := by
  rw [itemsOf, found]
  cases items <;> rfl

/-- The test method has the name of the record and an action for each of the record. -/
def IsReadFrom (record : Json) (method : TestMethod) : Prop :=
  record.field? "name" = some (.string method.name) ∧
    ∃ actions, record.field? "actions" = some (.array actions) ∧
      actions.length = method.actions.length

theorem IsActionRecord.exists_ofJson {record : Json} (isRecord : IsActionRecord record) :
    ∃ action, Action.ofJson record = .ok action := by
  obtain ⟨fields, rfl⟩ := isRecord.isObject
  exact ⟨Action.ofRecord fields, rfl⟩

theorem IsMethodRecord.exists_ofJson {record : Json} (isRecord : IsMethodRecord record) :
    ∃ method, TestMethod.ofJson record = .ok method ∧ IsReadFrom record method := by
  obtain ⟨hasName, hasActions⟩ := isRecord
  obtain ⟨fields, rfl⟩ := hasName.isObject
  obtain ⟨_, foundName, name, rfl⟩ := hasName
  obtain ⟨_, foundActions, records, rfl, areRecords⟩ := hasActions
  obtain ⟨actions, read, pairs⟩ := exists_of_forall_read (fun _ _ => True)
    fun record member =>
      (areRecords record member).exists_ofJson.imp fun _ given => ⟨given, trivial⟩
  refine ⟨⟨name, actions⟩, ?_, foundName, records, foundActions, pairs.length_eq⟩
  rw [Json.field?] at foundName foundActions
  show (do
    let actions ← (← Json.itemsOf "actions" fields).mapM Action.ofJson
    return TestMethod.mk (((Json.fieldOf? "name" fields).map Json.nameText).getD []) actions) = _
  rw [Json.itemsOf_array foundActions, foundName]
  show (records.mapM Action.ofJson >>= _) = _
  rw [read]
  rfl

/-- Every document can be read, method by method. -/
theorem IsDocument.exists_ofJson {document : Json} (isDocument : IsDocument document) :
    ∃ records extraction, document.field? "testMethods" = some (.array records) ∧
      Extraction.ofJson document = .ok extraction ∧
      List.Forall₂ IsReadFrom records extraction.methods := by
  obtain ⟨fields, rfl⟩ := isDocument.isObject
  obtain ⟨_, found, records, rfl, areRecords⟩ := isDocument
  obtain ⟨methods, read, pairs⟩ :=
    exists_of_forall_read IsReadFrom fun record member => (areRecords record member).exists_ofJson
  refine ⟨records, ⟨methods⟩, found, ?_, pairs⟩
  rw [Json.field?] at found
  show (do
    let methods ← (← Json.itemsOf "testMethods" fields).mapM TestMethod.ofJson
    return Extraction.mk methods) = _
  rw [Json.itemsOf_array found]
  show (records.mapM TestMethod.ofJson >>= _) = _
  rw [read]
  rfl

/-! ### The plan of a document of the grammar -/

/-- Every action has steps. -/
theorem lowerAll_eq_nil_iff (target : PlanTarget) (view : PageView) (actions : List Action) :
    (lowerAll target view actions).2 = [] ↔ actions = [] := by
  constructor
  · intro none
    have primary := forall₂_lowerAll target view actions
    rw [none] at primary
    exact List.forall₂_nil_right_iff.mp primary
  · rintro rfl
    rfl

theorem TestMethod.steps_plan_eq_nil_iff (target : PlanTarget) (method : TestMethod) :
    (method.plan target).steps = [] ↔ method.actions = [] := by
  constructor
  · intro none
    rw [steps_plan, Step.numbered_append, List.append_eq_nil_iff] at none
    have length := congrArg List.length none.2
    rw [Step.length_numbered] at length
    exact (lowerAll_eq_nil_iff target {} _).mp (List.length_eq_zero_iff.mp length)
  · intro none
    rw [steps_plan, none]
    rfl

/-- What is known of the plan of a record: it has the name of the record, it tells the number of its
steps, and it has none exactly if the record has no actions. -/
structure IsPlanOf (record : Json) (plan : MethodPlan) : Prop where
  name : record.field? "name" = some (.string plan.name)
  total : ∃ steps, plan.toJson.field? "steps" = some (.array steps) ∧
    plan.toJson.field? "total_steps" = some (Json.ofNat steps.length)
  empty : plan.steps = [] ↔ record.field? "actions" = some (.array [])

theorem IsReadFrom.isPlanOf {record : Json} {method : TestMethod}
    (isRead : IsReadFrom record method) (target : PlanTarget) :
    IsPlanOf record (method.plan target) := by
  obtain ⟨name, actions, found, sameLength⟩ := isRead
  refine ⟨name, ⟨_, rfl, ?_⟩, ?_⟩
  · rw [List.length_map]
    rfl
  · rw [TestMethod.steps_plan_eq_nil_iff, found, ← List.length_eq_zero_iff, ← sameLength,
      List.length_eq_zero_iff, Option.some.injEq, Json.array.injEq]

/-- A document can be planned if it has a method. -/
theorem isInterchange_iff {document : Json} {records : List Json} (isDocument : IsDocument document)
    (found : document.field? "testMethods" = some (.array records)) :
    IsInterchange document ↔ records ≠ [] := by
  rw [IsInterchange, found, and_iff_right isDocument, ne_eq, Option.some.injEq, Json.array.injEq]

/-- A plan comes of a document exactly if the document is of the grammar and has a test method; then
it has one method for each record, in their order. Otherwise there is an error of the input, and
nothing else can happen. -/
theorem planOfDocument_of_grammar (document : Json) (origin : PlanOrigin) (target : PlanTarget) :
    (¬ IsInterchange document ∧
        ∃ error, planOfDocument document origin target = .error (.input error)) ∨
      (IsInterchange document ∧
        ∃ plan records, planOfDocument document origin target = .ok plan ∧
          document.field? "testMethods" = some (.array records) ∧
          List.Forall₂ IsPlanOf records plan.methods) := by
  rw [planOfDocument, Extraction.load]
  cases told : toldFault? (documentFaults document) with
  | some fault =>
    refine .inl ⟨fun interchange => ?_, _, rfl⟩
    rw [(documentFaults_eq_nil_iff document).mpr interchange.1] at told
    cases told
  | none =>
    have isDocument := (documentFaults_eq_nil_iff document).mp (toldFault?_eq_none_iff.mp told)
    obtain ⟨records, extraction, found, read, pairs⟩ := isDocument.exists_ofJson
    have array : (document.field? "testMethods").bind Json.array? = some records := by
      rw [found]
      rfl
    rw [isInterchange_iff isDocument found, array, read]
    cases records with
    | nil => exact .inl ⟨fun some => some rfl, _, rfl⟩
    | cons record records =>
      refine .inr ⟨List.cons_ne_nil _ _, extraction.plan origin target, _, rfl, found, ?_⟩
      exact List.forall₂_map_right_iff.mpr (pairs.imp fun _ _ isRead => isRead.isPlanOf target)

end BrowserPlan
