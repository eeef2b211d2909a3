/-
This file proves that a plan made through the document of a source is the plan of the source.

A document that was written has no faults, whatever it holds: its records are objects with the
required fields, and these are of the required types. So the only document of a source from which
no plan comes is the one without test methods.
-/

import BrowserPlan.Plan.Input
import BrowserPlan.Proofs.Action.Document

namespace BrowserPlan

/-! ### A document that was written has no faults -/

theorem arrayFaults_map_write {Value : Type} {write : Value → Json} {values : List Value}
    {item : List PathPart → Json → List DocumentFault}
    (sound : ∀ path, ∀ value ∈ values, item path (write value) = []) (path : List PathPart) :
    arrayFaults path item (.array (values.map write)) = [] := by
  rw [arrayFaults, List.flatMap_eq_nil_iff]
  rintro ⟨written, position⟩ member
  obtain ⟨value, inside, rfl⟩ := List.mem_map.mp (List.fst_mem_of_mem_zipIdx member)
  exact sound _ value inside

theorem actionFaults_toJson (path : List PathPart) (action : Action) :
    actionFaults path action.toJson = [] :=
  rfl

theorem methodFaults_toJson (path : List PathPart) (method : TestMethod) :
    methodFaults path method.toJson = [] :=
  arrayFaults_map_write (fun path action _ => actionFaults_toJson path action) _

/-- A document that was written has no faults. -/
theorem documentFaults_toJson (extraction : Extraction) :
    documentFaults extraction.toJson = [] :=
  arrayFaults_map_write (fun path method _ => methodFaults_toJson path method) _

/-! ### The plan of a document -/

/-- A document that was written is loaded, if it has a method. -/
theorem Extraction.load_toJson {extraction : Extraction} (settled : extraction.Settled) :
    Extraction.load extraction.toJson =
      if extraction.methods.isEmpty then .error (.input .noMethods) else .ok extraction := by
  have methods : (extraction.toJson.field? "testMethods").bind Json.array? =
      some (extraction.methods.map TestMethod.toJson) :=
    rfl
  rw [load, documentFaults_toJson, ofJson_toJson settled, methods, Option.all_some,
    List.isEmpty_map]
  rfl

/-- The plan of a document is that of the extraction it was written from. -/
theorem planOfDocument_toJson {extraction : Extraction} (settled : extraction.Settled)
    (origin : PlanOrigin) (target : PlanTarget) :
    planOfDocument extraction.toJson origin target =
      if extraction.methods.isEmpty then .error (.input .noMethods)
      else .ok (extraction.plan origin target) := by
  rw [planOfDocument, Extraction.load_toJson settled]
  split <;> rfl

/-- An extraction that was recognised in a source, or read from any document, comes back from its
document as it is. The plan that is made through the document of a source is the plan of the
source itself, and no plan comes only where there is no test method. -/
theorem document_lossless :
    (∀ source wanted? order,
      Extraction.ofJson (Extraction.ofSource source wanted? order).toJson =
        .ok (Extraction.ofSource source wanted? order)) ∧
    (∀ document extraction, Extraction.ofJson document = .ok extraction →
      Extraction.ofJson extraction.toJson = .ok extraction) ∧
    (∀ source wanted? order origin target,
      planOfDocument (Extraction.ofSource source wanted? order).toJson origin target =
        if (Extraction.ofSource source wanted? order).methods.isEmpty then
          .error (.input .noMethods)
        else .ok ((Extraction.ofSource source wanted? order).plan origin target)) ∧
    (PlanFailure.input .noMethods).message = "No testMethods found in input" := by
  refine ⟨fun source wanted? order => ?_, fun document extraction read => ?_,
    fun source wanted? order origin target => ?_, rfl⟩
  · exact Extraction.ofJson_toJson (Extraction.settled_ofSource source wanted? order)
  · exact Extraction.ofJson_toJson (Extraction.settled_of_ofJson read)
  · exact planOfDocument_toJson (Extraction.settled_ofSource source wanted? order) origin target

/-- A document with a name that is no text, a type that is no text, a field of the wrong kind, a
condition that is null and a method without actions. -/
def oddDocument : Json :=
  .object
    [("testMethods",
      .array
        [.object
          [("name", Json.ofNat 5),
            ("actions",
              .array
                [.object [("x", .null), ("type", Json.ofNat 7)],
                  .object [("selector", .bool true), ("type", .string "click")],
                  .object [("type", .string "wait"), ("condition", .null),
                    ("selector", .string "#a"), ("x", .null)]])],
          .object [("name", .string "empty"), ("actions", .null)]])]

/-- What is read from that document. -/
def oddExtraction : Extraction :=
  { methods :=
      [{ name := "5"
         actions :=
          [.unknown "7" [("x", .null)], .unknown "click" [("selector", .bool true)],
            .wait "#a" none] },
        { name := "empty", actions := [] }] }

/-- A document with numbers for a name and a type, and with fields that nobody knows. -/
theorem document_lossless_of_oddDocument :
    Extraction.ofJson oddDocument = .ok oddExtraction ∧
      Extraction.ofJson oddExtraction.toJson = .ok oddExtraction :=
  ⟨rfl, document_lossless.2.1 oddDocument oddExtraction rfl⟩

end BrowserPlan
