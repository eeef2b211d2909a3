/-
This file proves that a record which is no action that a plan knows is neither dropped nor changed.

What is wrong with such a record is said of the record alone: its type is none of the known ones, a
field that its type needs is missing or no text, or it waits under a condition that is no text.
Reading keeps exactly these records whole. A plan made from the document has one step for each
record of a method, in order, and the step is passed over exactly if something is wrong with its
record; then the step hands the record back with all its fields.
-/

import BrowserPlan.Proofs.Plan.Grammar

namespace BrowserPlan

/-! ### The fields of an object -/

namespace Json

theorem fieldOf?_append (name : Text) (fields more : List (Text × Json)) :
    fieldOf? name (fields ++ more) = (fieldOf? name fields).or (fieldOf? name more) := by
  induction fields with
  | nil => rfl
  | cons field fields inductionHypothesis =>
    obtain ⟨other, value⟩ := field
    rw [List.cons_append, fieldOf?, fieldOf?, inductionHypothesis]
    split <;> rfl

theorem fieldOf?_cons_of_ne {name other : Text} {value : Json} {fields : List (Text × Json)}
    (different : other ≠ name) : fieldOf? name ((other, value) :: fields) = fieldOf? name fields :=
  if_neg different

/-- A field does not change when the fields of another name are taken out. -/
theorem fieldOf?_filter_of_ne {name removed : Text} (different : name ≠ removed)
    (fields : List (Text × Json)) :
    fieldOf? name (fields.filter fun field => field.1 ≠ removed) = fieldOf? name fields := by
  induction fields with
  | nil => rfl
  | cons field fields inductionHypothesis =>
    obtain ⟨other, value⟩ := field
    by_cases isRemoved : other = removed
    · rw [List.filter_cons_of_neg (by simpa using isRemoved), inductionHypothesis,
        fieldOf?_cons_of_ne (isRemoved ▸ different.symm)]
    · rw [List.filter_cons_of_pos (by simpa using isRemoved), fieldOf?, fieldOf?,
        inductionHypothesis]

/-- The two are objects and have the same value under every name. -/
def SameFields (first second : Json) : Prop :=
  ∃ fields others, first = .object fields ∧ second = .object others ∧
    ∀ name, fieldOf? name fields = fieldOf? name others

theorem isSome_text_iff {name : Text} {fields : List (Text × Json)} :
    ((fieldOf? name fields).bind string?).isSome ↔ (object fields).HasField name IsText := by
  rw [HasField, field?]
  cases fieldOf? name fields with
  | none => simp
  | some value => cases value <;> simp [string?, IsText]

end Json

/-! ### What can be wrong with a record -/

/-- The known types of actions and the fields that each of them needs. -/
def knownTypes : List (Text × List Text) :=
  [("navigate", ["url"]), ("click", ["selector"]), ("fill", ["selector", "value"]),
    ("clear", ["selector"]), ("get_text", ["selector"]), ("wait", ["selector"]),
    ("assert_text", ["selector", "expected"]), ("assert_true", ["expression"]),
    ("assert_false", ["expression"]), ("count_elements", ["selector"])]

/-- Something is wrong with a record of an action. -/
inductive IsMalformed (record : Json) : Prop
  /-- Its type is none of the known ones. -/
  | unknownType (type : Text) (typed : record.field? "type" = some (.string type))
      (unknown : ∀ names, (type, names) ∉ knownTypes)
  /-- A field that its type needs is missing or no text. -/
  | missingField (type : Text) (typed : record.field? "type" = some (.string type))
      (names : List Text) (known : (type, names) ∈ knownTypes) (name : Text)
      (needed : name ∈ names) (missing : ¬ record.HasField name Json.IsText)
  /-- It waits under a condition that is neither a text nor null. -/
  | oddCondition (typed : record.field? "type" = some (.string "wait")) (condition : Json)
      (given : record.field? "condition" = some condition) (notNull : condition ≠ .null)
      (noText : ¬ condition.IsText)

/-! ### Reading records -/

namespace Action

/-- The fields hold what a type needs: texts under the given names and, for an action that waits, no
condition but null or a text. -/
structure Fits (type : Text) (names : List Text) (fields : List (Text × Json)) : Prop where
  texts : ∀ name ∈ names, (Json.object fields).HasField name Json.IsText
  condition : type = ("wait" : Text) → ∀ condition,
    Json.fieldOf? "condition" fields = some condition → condition = .null ∨ condition.IsText

section Known

variable {type first second : Text} {names : List Text} {fields : List (Text × Json)}

theorem fits_iff (notWait : type ≠ ("wait" : Text)) :
    Fits type names fields ↔ ∀ name ∈ names, (Json.object fields).HasField name Json.IsText :=
  ⟨fun fits => fits.texts, fun texts => ⟨texts, fun isWait => absurd isWait notWait⟩⟩

theorem isSome_one_iff {make : Text → Action} (notWait : type ≠ ("wait" : Text)) :
    (((Json.fieldOf? first fields).bind Json.string?).map make).isSome ↔
      Fits type [first] fields := by
  rw [Option.isSome_map, Json.isSome_text_iff, fits_iff notWait, List.forall_mem_singleton]

theorem isSome_two_iff {make : Text → Text → Action} (notWait : type ≠ ("wait" : Text)) :
    (do
      return make (← (Json.fieldOf? first fields).bind Json.string?)
        (← (Json.fieldOf? second fields).bind Json.string?) : Option Action).isSome ↔
      Fits type [first, second] fields := by
  rw [fits_iff notWait, List.forall_mem_cons, List.forall_mem_singleton, ← Json.isSome_text_iff,
    ← Json.isSome_text_iff]
  cases (Json.fieldOf? first fields).bind Json.string? <;>
    cases (Json.fieldOf? second fields).bind Json.string? <;> simp

/-- A wait can be read under a condition that is a text, null or missing. -/
theorem isSome_wait_iff :
    (ofFields? "wait" fields).isSome ↔ Fits "wait" ["selector"] fields := by
  show (((Json.fieldOf? "selector" fields).bind Json.string?).bind _).isSome ↔ _
  have fits : Fits "wait" ["selector"] fields ↔
      ((Json.fieldOf? "selector" fields).bind Json.string?).isSome ∧
        ∀ condition, Json.fieldOf? "condition" fields = some condition →
          condition = .null ∨ condition.IsText := by
    rw [Json.isSome_text_iff]
    exact ⟨fun fits => ⟨fits.texts _ List.mem_cons_self, fits.condition rfl⟩,
      fun ⟨selector, condition⟩ =>
        ⟨List.forall_mem_singleton.mpr selector, fun _ => condition⟩⟩
  rw [fits]
  cases (Json.fieldOf? "selector" fields).bind Json.string? with
  | none => exact iff_of_false Bool.false_ne_true fun both => Bool.false_ne_true both.1
  | some selector =>
    cases Json.fieldOf? "condition" fields with
    | none => exact iff_of_true rfl ⟨rfl, fun _ => nofun⟩
    | some condition =>
      have only (holds : condition = .null ∨ condition.IsText) :
          ∀ other, some condition = some other → other = .null ∨ other.IsText := by
        rintro other ⟨⟩
        exact holds
      cases condition with
      | null => exact iff_of_true rfl ⟨rfl, only (.inl rfl)⟩
      | string text => exact iff_of_true rfl ⟨rfl, only (.inr ⟨text, rfl⟩)⟩
      | bool | number | array | object =>
        refine iff_of_false Bool.false_ne_true fun both => ?_
        obtain isNull | ⟨text, isText⟩ := both.2 _ rfl
        · cases isNull
        · cases isText

end Known

/-- A record of a known type can be read exactly if it holds what its type needs. -/
theorem isSome_ofFields?_iff {type : Text} {names : List Text} (known : (type, names) ∈ knownTypes)
    (fields : List (Text × Json)) : (ofFields? type fields).isSome ↔ Fits type names fields := by
  simp only [knownTypes, List.mem_cons, Prod.mk.injEq, List.not_mem_nil, or_false] at known
  rcases known with ⟨rfl, rfl⟩ | ⟨rfl, rfl⟩ | ⟨rfl, rfl⟩ | ⟨rfl, rfl⟩ | ⟨rfl, rfl⟩ | ⟨rfl, rfl⟩ |
    ⟨rfl, rfl⟩ | ⟨rfl, rfl⟩ | ⟨rfl, rfl⟩ | ⟨rfl, rfl⟩
  · exact isSome_one_iff (by decide)
  · exact isSome_one_iff (by decide)
  · exact isSome_two_iff (by decide)
  · exact isSome_one_iff (by decide)
  · exact isSome_one_iff (by decide)
  · exact isSome_wait_iff
  · exact isSome_two_iff (by decide)
  · exact isSome_one_iff (by decide)
  · exact isSome_one_iff (by decide)
  · exact isSome_one_iff (by decide)

theorem ofFields?_of_unknown {type : Text} (unknown : ∀ names, (type, names) ∉ knownTypes)
    (fields : List (Text × Json)) : ofFields? type fields = none := by
  have other : ∀ entry ∈ knownTypes, type ≠ entry.1 :=
    fun entry known equal => unknown entry.2 (equal ▸ known)
  simp only [knownTypes, List.forall_mem_cons] at other
  obtain ⟨navigate, click, fill, clear, getText, wait, assertText, assertTrue, assertFalse, count,
    _⟩ := other
  exact (if_neg navigate).trans <| (if_neg click).trans <| (if_neg fill).trans <|
    (if_neg clear).trans <| (if_neg getText).trans <| (if_neg wait).trans <|
    (if_neg assertText).trans <| (if_neg assertTrue).trans <| (if_neg assertFalse).trans <|
    if_neg count

/-- The fields of a record beside its type. -/
def untyped (fields : List (Text × Json)) : List (Text × Json) :=
  fields.filter fun field => field.1 ≠ ("type" : Text)

theorem ofRecord_of_typed {type : Text} {fields : List (Text × Json)}
    (typed : Json.fieldOf? "type" fields = some (.string type)) :
    ofRecord fields = (ofFields? type (untyped fields)).getD (.unknown type (untyped fields)) := by
  unfold ofRecord
  rw [typed]
  rfl

/-- A record that is kept whole has the fields that it came with. -/
theorem sameFields_toJson_unknown {type : Text} {fields : List (Text × Json)}
    (typed : Json.fieldOf? "type" fields = some (.string type)) :
    (Action.unknown type (untyped fields)).toJson.SameFields (.object fields) := by
  refine ⟨_, fields, rfl, rfl, fun name => ?_⟩
  rw [Json.fieldOf?]
  by_cases isType : name = "type"
  · rw [if_pos isType.symm, isType, typed]
    rfl
  · rw [if_neg (Ne.symm isType)]
    exact Json.fieldOf?_filter_of_ne isType fields

/-- Taking out the type leaves all other fields. -/
theorem hasField_untyped_iff {name : Text} (isOther : name ≠ "type") (holds : Json → Prop)
    (fields : List (Text × Json)) :
    (Json.object (untyped fields)).HasField name holds ↔
      (Json.object fields).HasField name holds := by
  rw [Json.HasField, Json.field?, untyped, Json.fieldOf?_filter_of_ne isOther]
  exact Iff.rfl

theorem needed_ne_type : ∀ entry ∈ knownTypes, ∀ name ∈ entry.2, name ≠ ("type" : Text) := by
  decide

/-- The fields beside its type cannot be read exactly if something is wrong with the record. -/
theorem ofFields?_untyped_eq_none_iff {type : Text} {fields : List (Text × Json)}
    (typed : Json.fieldOf? "type" fields = some (.string type)) :
    ofFields? type (untyped fields) = none ↔ IsMalformed (.object fields) := by
  have same {other : Text} (otherTyped : Json.fieldOf? "type" fields = some (.string other)) :
      other = type := by
    rw [typed] at otherTyped
    exact (Json.string.inj (Option.some.inj otherTyped)).symm
  have condition : Json.fieldOf? "condition" (untyped fields) = Json.fieldOf? "condition" fields :=
    Json.fieldOf?_filter_of_ne (by decide) fields
  constructor
  · intro unread
    by_cases known : ∃ names, (type, names) ∈ knownTypes
    · obtain ⟨names, known⟩ := known
      by_contra wellFormed
      refine Option.not_isSome_iff_eq_none.mpr unread ((isSome_ofFields?_iff known _).mpr ⟨?_, ?_⟩)
      · intro name needed
        rw [hasField_untyped_iff (needed_ne_type _ known name needed)]
        by_contra missing
        exact wellFormed (.missingField type typed names known name needed missing)
      · rintro rfl value given
        rw [condition] at given
        by_contra odd
        obtain ⟨notNull, noText⟩ := not_or.mp odd
        exact wellFormed (.oddCondition typed value given notNull noText)
    · exact .unknownType type typed (not_exists.mp known)
  · intro malformed
    refine Option.not_isSome_iff_eq_none.mp fun read => ?_
    cases malformed with
    | unknownType other otherTyped unknown =>
      obtain rfl := same otherTyped
      rw [ofFields?_of_unknown unknown] at read
      cases read
    | missingField other otherTyped names known name needed missing =>
      obtain rfl := same otherTyped
      have has := ((isSome_ofFields?_iff known _).mp read).texts name needed
      exact missing ((hasField_untyped_iff (needed_ne_type _ known name needed) _ _).mp has)
    | oddCondition otherTyped value given notNull noText =>
      obtain rfl := same otherTyped
      have known : (("wait" : Text), [("selector" : Text)]) ∈ knownTypes := by decide
      have fits := ((isSome_ofFields?_iff known _).mp read).condition rfl value
      exact (fits (condition.trans given)).elim notNull noText

/-- A record is kept whole exactly if something is wrong with it. -/
theorem isUnknown_ofRecord_iff {type : Text} {fields : List (Text × Json)}
    (typed : Json.fieldOf? "type" fields = some (.string type)) :
    (∃ other kept, ofRecord fields = .unknown other kept) ↔ IsMalformed (.object fields) := by
  rw [← ofFields?_untyped_eq_none_iff typed, ofRecord_of_typed typed]
  cases read : ofFields? type (untyped fields) with
  | none => exact iff_of_true ⟨_, _, rfl⟩ rfl
  | some action =>
    refine iff_of_false ?_ (Option.some_ne_none action)
    rintro ⟨other, kept, equal⟩
    have known := isKnown_of_ofFields? type (untyped fields) action read
    rw [Option.getD_some] at equal
    rw [equal] at known
    exact known

/-- A record that does not fit its type is kept as it is. -/
theorem ofRecord_of_isMalformed {type : Text} {fields : List (Text × Json)}
    (typed : Json.fieldOf? "type" fields = some (.string type))
    (malformed : IsMalformed (.object fields)) :
    ofRecord fields = .unknown type (untyped fields) := by
  rw [ofRecord_of_typed typed, (ofFields?_untyped_eq_none_iff typed).mpr malformed]
  rfl

end Action

/-! ### The step of a record -/

namespace Step

theorem fieldOf?_fieldIf_of_ne {name other : Text} {value? : Option Json}
    (different : other ≠ name) : Json.fieldOf? name (fieldIf other value?) = none := by
  cases value? with
  | none => rfl
  | some value => exact if_neg different

theorem fieldOf?_fieldIf (name : Text) (value? : Option Json) :
    Json.fieldOf? name (fieldIf name value?) = value? := by
  cases value? with
  | none => rfl
  | some value => exact if_pos rfl

/-- The record of a step holds that of its action. -/
theorem field?_action_toJson (step : Step) :
    step.toJson.field? "original_action" = step.action?.map Action.toJson := by
  rw [toJson, Json.field?]
  simp (disch := decide) only [List.cons_append, Json.fieldOf?_append, Json.field, Json.textField,
    flagIf, Json.fieldOf?_cons_of_ne, fieldOf?_fieldIf_of_ne, fieldOf?_fieldIf, Option.none_or,
    Option.or_none]

theorem field?_skipped_toJson (step : Step) :
    step.toJson.field? "skipped" = if step.isSkipped then some (.bool true) else none := by
  rw [toJson, Json.field?]
  simp (disch := decide) only [List.cons_append, Json.fieldOf?_append, Json.field, Json.textField,
    flagIf, Json.fieldOf?_cons_of_ne, fieldOf?_fieldIf_of_ne, fieldOf?_fieldIf, Option.none_or]

/-- The tool is told as unhandled just if the step is skipped. -/
theorem tool_eq_unhandled_iff (step : Step) :
    step.toJson.field? "tool" = some (.string "unhandled") ↔ step.isSkipped := by
  have tool : step.toJson.field? "tool" = some (.string step.instruction.tool) := rfl
  rw [tool, isSkipped, decide_eq_true_iff, Option.some.injEq, Json.string.injEq]
  constructor
  · intro same
    cases instruction : step.instruction with
    | unhandled => rfl
    | _ =>
      rw [instruction] at same
      exact absurd (List.cons.inj same).1 (by decide)
  · intro unhandled
    rw [unhandled]
    rfl

end Step

/-- What is known of the step of a record: it stands for what is read from the record, it is the
step that is passed over exactly if something is wrong with the record, and then it hands the record
back as it is. -/
structure IsStepOf (target : PlanTarget) (record : Json) (step : Step) : Prop where
  carries : ∃ action, Action.ofJson record = .ok action ∧ step.CarriesOut target action
  unhandled : step.toJson.field? "tool" = some (.string "unhandled") ↔ IsMalformed record
  skipped : step.toJson.field? "skipped" = some (.bool true) ↔ IsMalformed record
  kept : IsMalformed record → ∃ original,
    step.toJson.field? "original_action" = some original ∧ original.SameFields record

/-- A step that carries out an action keeps the record from which the action was read. -/
theorem Step.CarriesOut.isStepOf {target : PlanTarget} {record : Json} {action : Action}
    {step : Step} (carries : step.CarriesOut target action) (isRecord : IsActionRecord record)
    (read : Action.ofJson record = .ok action) : IsStepOf target record step := by
  obtain ⟨fields, rfl⟩ := isRecord.isObject
  obtain ⟨_, typed, type, rfl⟩ := isRecord
  obtain rfl : Action.ofRecord fields = action := Except.ok.inj read
  have isSkipped : step.isSkipped ↔ IsMalformed (.object fields) :=
    carries.skipped.trans (Action.isUnknown_ofRecord_iff typed)
  refine ⟨⟨_, read, carries⟩, step.tool_eq_unhandled_iff.trans isSkipped, ?_, fun malformed => ?_⟩
  · rw [Step.field?_skipped_toJson, ← isSkipped]
    cases step.isSkipped <;> simp
  · have kept := Action.ofRecord_of_isMalformed typed malformed
    refine ⟨_, ?_, Action.sameFields_toJson_unknown typed⟩
    rw [Step.field?_action_toJson, carries.original, kept]
    · rfl
    · rw [kept]
      exact fun _ => nofun

/-! ### The plan of a document -/

/-- A list that was read from an array of records has an item for each of them. -/
theorem forall₂_of_readList {Value Result : Type} {read : Json → Except ShapeFault Value}
    {name : Text} {make : List Value → Result} {result : Result} {fields : List (Text × Json)}
    {records : List Json} (done : readList name read make fields = .ok result)
    (found : Json.fieldOf? name fields = some (.array records)) :
    ∃ values, result = make values ∧
      List.Forall₂ (fun record value => read record = .ok value) records values := by
  obtain ⟨items, given, done⟩ := exists_of_bind_eq_ok done
  rw [Json.itemsOf_array found] at given
  cases given
  obtain ⟨values, whole, done⟩ := exists_of_bind_eq_ok done
  cases done
  exact ⟨values, rfl, mapM_eq_ok_iff.mp whole⟩

/-- What is known of the plan of a method: behind the steps that open the base address, and
snapshots aside, it has one step for each record of an action, in their order. -/
structure KeepsRecords (target : PlanTarget) (method : Json) (plan : MethodPlan) : Prop where
  name : method.field? "name" = some (.string plan.name)
  steps : ∃ records actions, method.field? "actions" = some (.array records) ∧
    List.Forall₂ (fun record action => Action.ofJson record = .ok action) records actions ∧
    List.Forall₂ (IsStepOf target) records
      ((plan.ownSteps actions).filter fun step => !step.isSnapshot)

/-- Step by step, a plan keeps the records of its actions. -/
theorem forall₂_isStepOf {target : PlanTarget} {records : List Json} {actions : List Action}
    {steps : List Step} (areRecords : ∀ record ∈ records, IsActionRecord record)
    (read : List.Forall₂ (fun record action => Action.ofJson record = .ok action) records actions)
    (carried : List.Forall₂ (fun action step => step.CarriesOut target action) actions steps) :
    List.Forall₂ (IsStepOf target) records steps := by
  induction read generalizing steps with
  | nil =>
    cases carried
    exact .nil
  | cons here later inductionHypothesis =>
    obtain ⟨isRecord, others⟩ := List.forall_mem_cons.mp areRecords
    cases carried with
    | cons carries rest =>
      exact .cons (carries.isStepOf isRecord here) (inductionHypothesis others rest)

/-- The plan of a method keeps the records of its actions. -/
theorem IsMethodRecord.keepsRecords {record : Json} {method : TestMethod}
    (isRecord : IsMethodRecord record) (read : TestMethod.ofJson record = .ok method)
    (target : PlanTarget) : KeepsRecords target record (method.plan target) := by
  obtain ⟨hasName, hasActions⟩ := isRecord
  obtain ⟨fields, rfl⟩ := hasName.isObject
  obtain ⟨_, foundName, name, rfl⟩ := hasName
  obtain ⟨_, foundActions, records, rfl, areRecords⟩ := hasActions
  have named : ((Json.fieldOf? "name" fields).map Json.nameText).getD [] = name := by
    rw [show Json.fieldOf? "name" fields = some (.string name) from foundName]
    rfl
  have list : readList "actions" Action.ofJson
      (TestMethod.mk (((Json.fieldOf? "name" fields).map Json.nameText).getD [])) fields =
        .ok method :=
    read
  rw [named] at list
  obtain ⟨actions, rfl, pairs⟩ := forall₂_of_readList list foundActions
  obtain ⟨first, own⟩ := ownSteps_plan target ⟨name, actions⟩
  refine ⟨foundName, records, actions, foundActions, pairs, ?_⟩
  rw [own]
  exact forall₂_isStepOf areRecords pairs
    (forall₂_numbered first (forall₂_lowerAll target {} actions))

/-- The plan of a document is the plan of what is read from it. -/
theorem IsInterchange.planOfDocument_eq {document : Json} {extraction : Extraction}
    (interchange : IsInterchange document) (read : Extraction.ofJson document = .ok extraction)
    (origin : PlanOrigin) (target : PlanTarget) :
    planOfDocument document origin target = .ok (extraction.plan origin target) := by
  have none : toldFault? (documentFaults document) = none :=
    toldFault?_eq_none_iff.mpr ((documentFaults_eq_nil_iff document).mpr interchange.1)
  obtain ⟨records, _, found, _⟩ := interchange.1.exists_ofJson
  have some : ((document.field? "testMethods").bind Json.array?).all List.isEmpty = false := by
    have isNotNil := (isInterchange_iff interchange.1 found).mp interchange
    rw [found]
    cases records with
    | nil => exact absurd rfl isNotNil
    | cons => rfl
  rw [planOfDocument, Extraction.load, none, some, read]
  rfl

/-- A plan of a document has one step for each record of an action, at the place of the record. That
step is the one that is passed over as unhandled exactly if the type of the record is not known, a
field that the type needs is missing or no text, or it waits under a condition that is neither null
nor a text; then the step carries a record that has each field of that record and no other. -/
theorem planOfDocument_keeps_records (document : Json) (origin : PlanOrigin) (target : PlanTarget)
    (interchange : IsInterchange document) :
    ∃ plan methods, planOfDocument document origin target = .ok plan ∧
      document.field? "testMethods" = some (.array methods) ∧
      List.Forall₂ (KeepsRecords target) methods plan.methods := by
  obtain ⟨methods, extraction, found, read, _⟩ := interchange.1.exists_ofJson
  refine ⟨_, methods, interchange.planOfDocument_eq read origin target, found, ?_⟩
  obtain ⟨fields, rfl⟩ := interchange.1.isObject
  have list : readList "testMethods" TestMethod.ofJson Extraction.mk fields = .ok extraction := read
  obtain ⟨values, rfl, pairs⟩ := forall₂_of_readList list found
  obtain ⟨⟨_, given, array, rfl, areRecords⟩, _⟩ := interchange
  rw [given] at found
  cases found
  have both := (List.forall₂_and_left methods values).mpr ⟨areRecords, pairs⟩
  exact List.forall₂_map_right_iff.mpr <| both.imp
    fun _ _ ⟨isRecord, readMethod⟩ => isRecord.keepsRecords readMethod target

/-- A document with one method that wants to hover, to click on nothing in particular, to wait under
a condition that is a number, and to wait under none. -/
def hoveringDocument : Json :=
  .object
    [("testMethods",
      .array
        [.object
          [("name", .string "menu"),
            ("actions",
              .array
                [.object [("selector", .string "#a"), ("type", .string "hover"),
                    ("with", .object [("shift", .bool true)])],
                  .object [("type", .string "click"), ("selector", .null)],
                  .object [("type", .string "wait"), ("condition", Json.ofNat 3),
                    ("selector", .string "#a")],
                  .object [("type", .string "wait"), ("selector", .string "#a"),
                    ("condition", .null)]])]])]

/-- Each of its records has a step. -/
theorem planOfDocument_keeps_hovering :
    IsInterchange hoveringDocument ∧
      ∃ plan methods,
        planOfDocument hoveringDocument { generatedAt := [], sourceFile := [] } { baseUrl := "/" } =
          .ok plan ∧
        hoveringDocument.field? "testMethods" = some (.array methods) ∧
        List.Forall₂ (KeepsRecords { baseUrl := "/" }) methods plan.methods := by
  have interchange : IsInterchange hoveringDocument :=
    ⟨(documentFaults_eq_nil_iff _).mp rfl, nofun⟩
  exact ⟨interchange, planOfDocument_keeps_records hoveringDocument _ _ interchange⟩

end BrowserPlan
