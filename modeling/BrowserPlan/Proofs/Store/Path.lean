/-
This file proves what is needed of the written forms of paths: a path that can be used has a way to
it that can be used.

Whether a path can be used depends on its written form alone, and what leads to a path is written at
the front of it. So each of the three things that may be wrong with a text has to be passed on from
the front of a text to the whole of it.
-/

import BrowserPlan.Store.FileSystem
import Mathlib.Data.List.Basic
import Mathlib.Data.List.TakeWhile

namespace BrowserPlan

/-! ### The front of a text -/

theorem Text.join_isPrefix (separator : Text) (pieces more : List Text) :
    Text.join separator pieces <+: Text.join separator (pieces ++ more) := by
  rw [join, join]
  induction pieces with
  | nil => exact List.nil_prefix
  | cons piece pieces inductionHypothesis =>
    cases pieces with
    | nil =>
      cases more with
      | nil => exact List.prefix_rfl
      | cons next more =>
        rw [List.singleton_append, List.intercalate_cons_cons, List.intercalate_singleton,
          List.append_assoc]
        exact List.prefix_append _ _
    | cons next pieces =>
      rw [List.cons_append, List.cons_append, List.intercalate_cons_cons,
        List.intercalate_cons_cons]
      exact (List.prefix_append_right_inj _).mpr inductionHypothesis

namespace Utf8

theorem size_le_of_isPrefix {front text : Text} (opens : front <+: text) :
    size front ≤ size text := by
  induction front generalizing text with
  | nil => exact Nat.zero_le _
  | cons char front inductionHypothesis =>
    obtain ⟨rest, rfl⟩ := opens
    exact Nat.add_le_add_left (inductionHypothesis (List.prefix_append _ _)) _

theorem halfRun?_eq_none_iff {isHeld : Nat → Bool} {position : Nat} {char : Char} {text : Text} :
    halfRun? isHeld position char text = none ↔
      (Text.half? char).filter (fun unit => !isHeld unit) = none :=
  Option.map_eq_none_iff

/-- If a text has bytes, so do its fronts. -/
theorem halfFaultFrom_of_isPrefix {isHeld : Nat → Bool} {position : Nat} {front text : Text}
    (opens : front <+: text) (whole : halfFaultFrom isHeld position text = none) :
    halfFaultFrom isHeld position front = none := by
  induction front generalizing text position with
  | nil => rfl
  | cons char front inductionHypothesis =>
    obtain ⟨rest, rfl⟩ := opens
    rw [List.cons_append, halfFaultFrom, Option.or_eq_none_iff, halfRun?_eq_none_iff] at whole
    rw [halfFaultFrom, Option.or_eq_none_iff, halfRun?_eq_none_iff]
    exact ⟨whole.1, inductionHypothesis (List.prefix_append _ _) whole.2⟩

end Utf8

/-! ### The way to a path -/

theorem Path.toText_isPrefix {root : Text} {parts : List Text} (isSaid : ¬ (root = [] ∧ parts = []))
    (more : List Text) : toText ⟨root, parts⟩ <+: toText ⟨root, parts ++ more⟩ := by
  have text {parts : List Text} (isSaid : ¬ (root = [] ∧ parts = [])) :
      toText ⟨root, parts⟩ = root ++ Text.join ['/'] parts := by
    rw [toText, if_neg]
    rwa [Bool.and_eq_true, decide_eq_true_eq, decide_eq_true_eq]
  have isSaidFurther : ¬ (root = [] ∧ parts ++ more = []) := by
    rw [List.append_eq_nil_iff]
    exact fun bare => isSaid ⟨bare.1, bare.2.1⟩
  rw [text isSaid, text isSaidFurther]
  exact (List.prefix_append_right_inj _).mpr (Text.join_isPrefix _ _ _)

/-- A path can be asked for if it has bytes, no null character and a bounded length. -/
theorem FileSystem.pathProblem?_eq_none_iff (path : Path) :
    pathProblem? path = none ↔
      Utf8.nameFault? path.toText = none ∧ '\x00' ∉ path.toText ∧
        Utf8.size path.toText ≤ pathLimit := by
  rw [pathProblem?]
  cases Utf8.nameFault? path.toText with
  | some fault => simp
  | none =>
    dsimp only
    split_ifs with null long
    · simp [List.contains_iff_mem.mp null]
    · simp [long]
    · simp [mt List.contains_iff_mem.mpr null, Nat.not_lt.mp long]

/-- What leads to a usable path is usable as well. -/
theorem FileSystem.pathProblem?_of_append {root : Text} {parts more : List Text}
    (usable : pathProblem? ⟨root, parts ++ more⟩ = none) : pathProblem? ⟨root, parts⟩ = none := by
  by_cases bare : root = [] ∧ parts = []
  · obtain ⟨rfl, rfl⟩ := bare
    decide
  have opens := Path.toText_isPrefix bare more
  obtain ⟨named, noNull, short⟩ := (pathProblem?_eq_none_iff _).mp usable
  exact (pathProblem?_eq_none_iff _).mpr
    ⟨Utf8.halfFaultFrom_of_isPrefix opens named, fun member => noNull (opens.subset member),
      Nat.le_trans (Utf8.size_le_of_isPrefix opens) short⟩

/-- A name with a suffix is longer than the parts of a path that stand for no name. -/
theorem Text.append_ne_of_length_le {stem suffix short : Text} (long : 2 < suffix.length)
    (isShort : short.length ≤ 2) : stem ++ suffix ≠ short := by
  rintro rfl
  rw [List.length_append] at isShort
  omega

/-! ### The path of a plan -/

namespace Path

/-- A suffix holds one point, at its front. -/
def IsSuffix (suffix : Text) : Prop :=
  ∀ after, suffix = '.' :: after → '.' ∉ after

theorem splitName_append (name : Text) : (splitName name).1 ++ (splitName name).2 = name := by
  have parts := List.takeWhile_append_dropWhile (p := (· ≠ '.')) (l := name.reverse)
  unfold splitName
  extract_lets after
  split
  · rename_i before found
    split
    · exact List.append_nil name
    · have whole := congrArg List.reverse parts
      rw [found, List.reverse_append, List.reverse_cons, List.reverse_reverse,
        List.append_assoc] at whole
      exact whole
  · exact List.append_nil name

theorem isSuffix_splitName (name : Text) : IsSuffix (splitName name).2 := by
  unfold splitName
  extract_lets found
  split
  · split
    · exact fun after isCons => nomatch isCons
    · rintro after ⟨⟩ member
      have noPoint := List.mem_takeWhile_imp (List.mem_reverse.mp member)
      exact absurd noPoint (by decide)
  · exact fun after isCons => nomatch isCons

/-- The name of a plan ends in two suffixes, and no other name is like it but for one. -/
theorem planName_ne (name : Text) : (splitName name).1 ++ ".playwright-plan.json" ≠ name := by
  intro same
  have suffix : (".playwright-plan.json" : Text) = (splitName name).2 := by
    rw [← List.append_cancel_left_eq (splitName name).1, same, splitName_append]
  have single := isSuffix_splitName name
  rw [← suffix] at single
  exact single _ rfl (by decide)

theorem name_eq_nil_or (path : Path) :
    path.name = [] ∨ path.parts = path.parts.dropLast ++ [path.name] := by
  cases last : path.parts.getLast? with
  | none =>
    left
    rw [name, last]
    rfl
  | some part =>
    right
    rw [name, last]
    exact (List.dropLast_append_getLast? part last).symm

/-- The plan of a source with a name lies in the same folder. -/
theorem planPath_of_name_ne_nil {path : Path} (named : path.name ≠ []) :
    path.planPath =
      .ok ⟨path.root, path.parts.dropLast ++ [path.stem ++ ".playwright-plan.json"]⟩ := by
  rw [planPath, withName, if_neg named]

/-- What a path with a plan looks like, and where the plan is. -/
theorem parts_of_planPath {path beside : Path} (isBeside : path.planPath = .ok beside) :
    path.parts = path.parts.dropLast ++ [path.name] ∧
      beside = ⟨path.root, path.parts.dropLast ++ [path.stem ++ ".playwright-plan.json"]⟩ := by
  obtain unnamed | parts := name_eq_nil_or path
  · rw [planPath, withName, if_pos unnamed] at isBeside
    cases isBeside
  · refine ⟨parts, ?_⟩
    rw [planPath, withName] at isBeside
    split_ifs at isBeside
    exact (Except.ok.inj isBeside).symm

/-- A plan never has the path that it is the plan for. -/
theorem planPath_ne {path beside : Path} (isBeside : path.planPath = .ok beside) :
    beside ≠ path := by
  obtain ⟨parts, rfl⟩ := parts_of_planPath isBeside
  intro same
  have sameParts := congrArg Path.parts same
  rw [parts, List.dropLast_concat] at sameParts
  exact planName_ne path.name (List.append_singleton_inj.mp sameParts).2

end Path

end BrowserPlan
