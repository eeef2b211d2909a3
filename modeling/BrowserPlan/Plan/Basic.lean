/-
This file makes whole plans.

The plan of a test method starts with a navigation to the base address and a snapshot if the
method does something but opens no page itself. The steps are numbered from one.
-/

import BrowserPlan.Action.Document
import BrowserPlan.Plan.Lowering

namespace BrowserPlan

/-! ### The plan of a test method -/

/-- The numbered steps of a test method, and the addresses whose snapshot holds at the end. -/
structure MethodPlan where
  name : Text
  steps : List Step
  freshUrls : List Text

/-- Whether an action goes to another page. -/
def Action.isNavigate : Action → Bool
  | .navigate _ => true
  | _ => false

/-- The steps that open the base address. -/
def openingSteps (target : PlanTarget) : List Step :=
  [{ instruction := .navigate target.baseUrl
     note := "Auto-inserted: Navigate to base URL (no explicit navigation in source)" },
    Step.snapshot "Auto-inserted: Initial snapshot"]

/-- Whether a list of actions needs the base address to be opened first. -/
def needsOpening (actions : List Action) : Bool :=
  !actions.isEmpty && !actions.any Action.isNavigate

/-- The plan of a test method. -/
def TestMethod.plan (target : PlanTarget) (method : TestMethod) : MethodPlan :=
  let (view, steps) := lowerAll target {} method.actions
  let opening := if needsOpening method.actions then openingSteps target else []
  { name := method.name
    steps := Step.numbered 1 (opening ++ steps)
    freshUrls := view.freshUrls }

/-- The document of the plan of a method. -/
def MethodPlan.toJson (plan : MethodPlan) : Json :=
  .object
    [("name", .string plan.name), ("total_steps", Json.ofNat plan.steps.length),
      ("steps", .array (plan.steps.map Step.toJson)),
      ("result",
        .object [("status", .string "pending"), ("locator_failures", .array []),
          ("notes", .string "")])]

/-! ### The plan of a source -/

/-- Where a plan comes from and when it was made. -/
structure PlanOrigin where
  generatedAt : Text
  sourceFile : Text

/-- The plan of a whole source. -/
structure Plan where
  origin : PlanOrigin
  baseUrl : Text
  methods : List MethodPlan

/-- The program that the plan is written for. -/
def planBackend : Text :=
  "@playwright/mcp"

/-- What whoever runs a plan has to do. -/
def executionGuide : List Text :=
  ["1. Run each entry of test_methods in order.",
    "2. On a 'browser_snapshot' step, take the snapshot and keep it for resolving refs in " ++
      "the steps that follow.",
    "3. Replace '" ++ Instruction.referencePlace ++ "' inside args_template with the ref of " ++
      "the element in the latest snapshot that matches selector_hint.",
    "4. After running a step, update its locator_status to 'resolved' or 'not_found'.",
    "5. When every test method has run, fill in each result and the summary."]

/-- The plan of a source, method by method. -/
def Extraction.plan (extraction : Extraction) (origin : PlanOrigin) (target : PlanTarget) : Plan :=
  { origin, baseUrl := target.baseUrl, methods := extraction.methods.map (TestMethod.plan target) }

/-- The number of steps of all methods. -/
def Plan.totalSteps (plan : Plan) : Nat :=
  (plan.methods.flatMap (·.steps)).length

/-- The document of a plan. -/
def Plan.toJson (plan : Plan) : Json :=
  .object
    [("metadata",
        .object
          [("generated_at", .string plan.origin.generatedAt),
            ("source_file", .string plan.origin.sourceFile), ("base_url", .string plan.baseUrl),
            ("backend", .string planBackend)]),
      ("execution_guide", Json.strings executionGuide),
      ("test_methods", .array (plan.methods.map MethodPlan.toJson)),
      ("summary",
        .object
          [("total_methods", Json.ofNat plan.methods.length), ("status", .string "pending"),
            ("locator_resolution_rate", .null)])]

end BrowserPlan
