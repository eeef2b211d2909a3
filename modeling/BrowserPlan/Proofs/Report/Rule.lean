/-
This file proves that the rules that count are exact: what they complain about is what is counted.

The search for repeated numbers goes through the cases once and keeps what it has seen. Each case
either is told, if its number was seen before, or adds one to what is seen; so the complaints and
the different numbers together are as many as the cases, and a complaint stands for each case that
an earlier one shares its number with.
-/

import BrowserPlan.Proofs.Except
import BrowserPlan.Proofs.Report.Check
import BrowserPlan.Report.Document
import Mathlib.Data.Finset.Card

namespace BrowserPlan.Report

open Java (complain)

/-! ### Repeated numbers -/

section Repeated

variable {Item Key : Type} [DecidableEq Key] {key : Item → Key}

/-- The items with a key that an earlier item has too, in order. -/
def recurring (key : Item → Key) (items : List Item) : List Item :=
  (items.zipIdx.filter fun entry => key entry.1 ∈ (items.take entry.2).map key).map Prod.fst

/-- Only which keys were seen matters, not their order. -/
theorem repeated_congr {seen other : List Key} (same : ∀ known, known ∈ seen ↔ known ∈ other)
    (items : List Item) : repeated key seen items = repeated key other items := by
  induction items generalizing seen other with
  | nil => rfl
  | cons item items inductionHypothesis =>
    have further : ∀ known, known ∈ key item :: seen ↔ known ∈ key item :: other := by
      simp [same]
    rw [repeated, repeated, inductionHypothesis same, inductionHypothesis further]
    simp only [same]

/-- It makes no difference whether a number that was seen is noted once more. -/
theorem repeated_cons (seen : List Key) (item : Item) (items : List Item) :
    repeated key seen (item :: items) =
      (if key item ∈ seen then [item] else []) ++ repeated key (key item :: seen) items := by
  rw [repeated]
  split_ifs with isSeen
  · have same : ∀ known, known ∈ seen ↔ known ∈ key item :: seen := by
      simpa using isSeen
    rw [repeated_congr same, List.singleton_append]
  · rfl

/-- An item is repeated if its key was seen or belongs to an earlier item. -/
theorem repeated_eq_filter (seen : List Key) (items : List Item) :
    repeated key seen items =
      (items.zipIdx.filter fun entry =>
        key entry.1 ∈ seen ∨ key entry.1 ∈ (items.take entry.2).map key).map Prod.fst := by
  induction items generalizing seen with
  | nil => rfl
  | cons item items inductionHypothesis =>
    rw [repeated_cons, inductionHypothesis, List.zipIdx_cons', List.filter_cons, List.filter_map]
    have later : (fun entry : Item × Nat =>
          decide (key entry.1 ∈ key item :: seen ∨ key entry.1 ∈ (items.take entry.2).map key)) =
        (fun entry => decide (key entry.1 ∈ seen ∨
          key entry.1 ∈ ((item :: items).take entry.2).map key)) ∘ Prod.map id (· + 1) := by
      funext entry
      simp only [Function.comp_apply, Prod.map, id, List.take_succ_cons, List.map_cons,
        List.mem_cons, decide_eq_decide]
      tauto
    rw [later]
    simp only [List.take_zero, List.map_nil, List.not_mem_nil, or_false, decide_eq_true_eq]
    split_ifs <;> simp

/-- If nothing was seen before, the repeated items are the recurring ones. -/
theorem repeated_nil (items : List Item) : repeated key [] items = recurring key items := by
  rw [repeated_eq_filter, recurring]
  simp only [List.not_mem_nil, false_or]

theorem repeated_map {Source : Type} (read : Source → Item) (seen : List Key)
    (sources : List Source) :
    repeated key seen (sources.map read) = (repeated (key ∘ read) seen sources).map read := by
  induction sources generalizing seen with
  | nil => rfl
  | cons source sources inductionHypothesis =>
    rw [List.map_cons, repeated_cons, repeated_cons, inductionHypothesis, List.map_append]
    simp only [Function.comp_apply]
    split_ifs <;> rfl

theorem recurring_map {Source : Type} (read : Source → Item) (sources : List Source) :
    recurring key (sources.map read) = (recurring (key ∘ read) sources).map read := by
  rw [← repeated_nil, repeated_map, repeated_nil]

/-- Every item is told or is the first to have its key. -/
theorem length_repeated_add_card (seen : List Key) (items : List Item) :
    (repeated key seen items).length + (seen.toFinset ∪ (items.map key).toFinset).card =
      items.length + seen.toFinset.card := by
  induction items generalizing seen with
  | nil => simp [repeated]
  | cons item items inductionHypothesis =>
    rw [repeated, List.map_cons, List.toFinset_cons, Finset.union_insert, List.length_cons]
    split_ifs with isSeen
    · have same : insert (key item) (seen.toFinset ∪ (items.map key).toFinset) =
          seen.toFinset ∪ (items.map key).toFinset :=
        Finset.insert_eq_of_mem (Finset.mem_union_left _ (List.mem_toFinset.mpr isSeen))
      have later := inductionHypothesis seen
      rw [same, List.length_cons]
      omega
    · have isNew : key item ∉ seen.toFinset := fun member => isSeen (List.mem_toFinset.mp member)
      have later := inductionHypothesis (key item :: seen)
      rw [List.toFinset_cons, Finset.insert_union, Finset.card_insert_of_notMem isNew] at later
      omega

/-- There are as many items as there are keys and items that recur. -/
theorem length_recurring_add_card (items : List Item) :
    (recurring key items).length + (items.map key).toFinset.card = items.length := by
  rw [← repeated_nil]
  simpa using @length_repeated_add_card _ _ _ key [] items

example : recurring id [1, 2, 1, 3, 2, 1] = [1, 2, 1] := by
  decide

end Repeated

/-! ### What is told -/

/-- How the complaint about a repeated number starts. -/
def duplicateOpening : Text :=
  "Duplicate test case id found: "

/-- The number of the case that an error calls a duplicate, if that is what it tells. -/
def RuleError.duplicate? {Id Count : Type} : RuleError Id Count → Option Id
  | .duplicate id => some id
  | _ => none

section Told

variable {Id Key Count : Type} [DecidableEq Key]

/-- The messages about duplicates are told by how they begin. -/
theorem filter_messages (name : Id → Text) (countText : Count → Text)
    (errors : List (RuleError Id Count)) :
    (errors.map (RuleError.message name countText)).filter (Text.opensWith duplicateOpening) =
      (errors.filterMap RuleError.duplicate?).map fun id => duplicateOpening ++ name id := by
  induction errors with
  | nil => rfl
  | cons error errors inductionHypothesis =>
    rw [List.map_cons, List.filter_cons, inductionHypothesis]
    cases error with
    | duplicate id =>
      have opens : Text.opensWith duplicateOpening
          (RuleError.message name countText (.duplicate id)) = true :=
        Text.opensWith_iff.mpr (List.prefix_append _ _)
      rw [if_pos opens]
      rfl
    | fewCases | fewInCategory | missingSnippets | fewTests => rfl

theorem filterMap_duplicate_complain {condition : Bool} {error : RuleError Id Count}
    (other : ∀ id, error ≠ .duplicate id) :
    (complain condition error).filterMap RuleError.duplicate? = [] := by
  cases condition with
  | false => rfl
  | true =>
    cases error with
    | duplicate id => exact absurd rfl (other id)
    | fewCases | fewInCategory | missingSnippets | fewTests => rfl

/-- The duplicates among the errors are the recurring numbers. -/
theorem filterMap_duplicate_ruleErrors (key : Id → Key) (isFew : Count → Bool)
    (entries : List (CaseEntry Id)) (code : Text) (testCount : Count) :
    (ruleErrors key isFew entries code testCount).filterMap RuleError.duplicate? =
      recurring key (entries.map CaseEntry.id) := by
  have repeats (ids : List Id) :
      (ids.map (RuleError.duplicate : Id → RuleError Id Count)).filterMap RuleError.duplicate? =
        ids := by
    rw [List.filterMap_map]
    exact List.filterMap_some
  have categories {told : Category × Nat → List (RuleError Id Count)}
      (other : ∀ entry, (told entry).filterMap RuleError.duplicate? = []) :
      ((tallyOf entries).flatMap told).filterMap RuleError.duplicate? = [] := by
    rw [List.filterMap_flatMap, List.flatMap_eq_nil_iff]
    exact fun entry _ => other entry
  simp only [ruleErrors, List.filterMap_append, filterMap_duplicate_complain, repeats,
    ne_eq, reduceCtorEq, not_false_eq_true, implies_true, List.nil_append, List.append_nil,
    repeated_nil]
  rw [categories fun _ => filterMap_duplicate_complain fun _ => by simp,
    List.nil_append]

end Told

/-! ### Reports that are given as documents -/

/-- A case of a document: an object with a number, and perhaps a category, which can be compared. -/
structure ParsedCase where
  fields : List (Text × Json)
  id : Json
  key : Json.Key
  categoryKey : Json.Key
  hasId : Json.fieldOf? "id" fields = some id
  isKey : id.key? = some key
  isCategoryKey : ((Json.fieldOf? "category" fields).getD .null).key? = some categoryKey

namespace ParsedCase

/-- The case as a document. -/
def json (case : ParsedCase) : Json :=
  .object case.fields

/-- Whether a case carries a category. One without any carries none, nor does one with a word that
stands for none. -/
def carries (case : ParsedCase) (category : Category) : Bool :=
  case.categoryKey = .string category.word

/-- What the rules see of a case. -/
def entry (case : ParsedCase) : CaseEntry (Json.Key × Json) :=
  { id := (case.key, case.id), category? := Category.all.find? case.carries }

theorem readKey_eq {value : Json} {key : Json.Key} (isKey : value.key? = some key) :
    readKey value = .ok key := by
  rw [readKey, isKey]

theorem readCategory_json (case : ParsedCase) :
    readCategory case.json = .ok (Category.all.find? case.carries) := by
  show (readKey ((Json.fieldOf? "category" case.fields).getD .null) >>= fun key =>
    pure (Category.all.find? fun category => key = .string category.word)) = _
  rw [readKey_eq case.isCategoryKey]
  rfl

theorem readId_json (case : ParsedCase) : readId case.json = .ok (case.key, case.id) := by
  rw [readId, show case.json.field? "id" = some case.id from case.hasId]
  show (readKey case.id >>= fun key => pure (key, case.id)) = _
  rw [readKey_eq case.isKey]
  rfl

theorem readEntries_json (cases : List ParsedCase) :
    readEntries (cases.map json) = .ok (cases.map entry) := by
  rw [readEntries, mapM_map_eq_ok fun case _ => readCategory_json case,
    mapM_map_eq_ok fun case _ => readId_json case]
  show Except.ok _ = _
  rw [List.zip_map', List.map_map]
  rfl

theorem category?_entry_iff {case : ParsedCase} {category : Category} :
    case.entry.category? = some category ↔ case.carries category = true := by
  constructor
  · exact fun found => List.find?_some found
  · intro carried
    have same : case.carries = fun other => decide (category.word = other.word) := by
      funext other
      rw [carries, of_decide_eq_true carried]
      simp
    show Category.all.find? case.carries = some category
    rw [same]
    cases category <;> decide

theorem countIn_entry (category : Category) (cases : List ParsedCase) :
    countIn category (cases.map entry) = cases.countP fun case => case.carries category := by
  rw [countIn, List.countP_map]
  refine List.countP_congr fun case _ => ?_
  rw [Function.comp_apply, decide_eq_true_eq, category?_entry_iff]

end ParsedCase

/-- The rules find nothing wrong with a report exactly if it has enough cases, also of each
category, numbers that are all different, a code with all that is required and enough tests. A
repeated number is told once for each case that an earlier one shares it with, in order, and so
these complaints and the different numbers are as many as the cases. -/
theorem documentErrors_exact (cases : List ParsedCase) (code : Text) (testCount : Int) :
    ∃ messages,
      documentErrors (cases.map ParsedCase.json) code (.number (.integer testCount)) =
          .ok messages ∧
        (messages = [] ↔
          15 ≤ cases.length ∧
            (∀ category : Category, 3 ≤ cases.countP fun case => case.carries category) ∧
            (cases.map ParsedCase.key).Nodup ∧
            (∀ snippet ∈ requiredSnippets, snippet <:+: code) ∧ 3 ≤ testCount) ∧
        messages.filter (Text.opensWith duplicateOpening) =
          (recurring ParsedCase.key cases).map (fun case => duplicateOpening ++ case.id.nameText) ∧
        (messages.filter (Text.opensWith duplicateOpening)).length +
            (cases.map ParsedCase.key).toFinset.card =
          cases.length := by
  let isFew (count : Json) : Bool := (count.isBelow? leastTests).getD false
  let errors := ruleErrors Prod.fst isFew (cases.map ParsedCase.entry) code
    (.number (.integer testCount))
  have ids : (cases.map ParsedCase.entry).map CaseEntry.id =
      cases.map fun case => (case.key, case.id) :=
    List.map_map
  have keys : (cases.map fun case => (case.key, case.id)).map Prod.fst =
      cases.map ParsedCase.key :=
    List.map_map
  have tests : isFew (.number (.integer testCount)) = false ↔ 3 ≤ testCount :=
    decide_eq_false_iff_not.trans Int.not_lt
  have told : (errors.map (RuleError.message (fun id => id.2.nameText) Json.spell)).filter
        (Text.opensWith duplicateOpening) =
      (recurring ParsedCase.key cases).map fun case => duplicateOpening ++ case.id.nameText := by
    rw [filter_messages, filterMap_duplicate_ruleErrors, ids, recurring_map, List.map_map]
    rfl
  refine ⟨errors.map (RuleError.message (fun id => id.2.nameText) Json.spell), ?_, ?_, told, ?_⟩
  · rw [documentErrors, ParsedCase.readEntries_json]
    rfl
  · rw [List.map_eq_nil_iff, ruleErrors_eq_nil_iff, ids, keys, List.length_map, tests]
    simp only [ParsedCase.countIn_entry]
    rfl
  · rw [told, List.length_map, length_recurring_add_card]

/-- Cases with the number one as an integer, as a truth value and as a text, which is another
number. The word that the first one carries stands for no category. -/
def oddlyNumbered : List ParsedCase :=
  [{ fields := [("id", .number (.integer 1)), ("category", .string "other")]
     id := .number (.integer 1)
     key := .number (.integer 1)
     categoryKey := .string "other"
     hasId := rfl
     isKey := rfl
     isCategoryKey := rfl },
    { fields := [("category", .string Category.normal.word), ("id", .bool true)]
      id := .bool true
      key := .number (.integer 1)
      categoryKey := .string Category.normal.word
      hasId := rfl
      isKey := rfl
      isCategoryKey := rfl },
    { fields := [("id", .string "1")]
      id := .string "1"
      key := .string "1"
      categoryKey := .null
      hasId := rfl
      isKey := rfl
      isCategoryKey := rfl }]

/-- Numbers that are equal though they are written as a truth value and as an integer. -/
theorem documentErrors_exact_of_oddlyNumbered :
    ∃ messages,
      documentErrors (oddlyNumbered.map ParsedCase.json) "@Test" (.number (.integer 3)) =
          .ok messages ∧
        messages ≠ [] ∧
        messages.filter (Text.opensWith duplicateOpening) =
          ["Duplicate test case id found: True".toList] := by
  obtain ⟨messages, done, nothing, told, _⟩ := documentErrors_exact oddlyNumbered "@Test" 3
  refine ⟨messages, done, fun isNil => absurd (nothing.mp isNil).1 (by decide), ?_⟩
  rw [told]
  decide

end BrowserPlan.Report
