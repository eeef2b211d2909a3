/-
This file proves which parts of a report its sections are.
-/

import BrowserPlan.Report.Check
import Mathlib.Data.List.Basic

namespace BrowserPlan.Report

theorem between_eq_nil {text : Text} {start stop : Nat} (late : stop ≤ start) :
    between text start stop = [] := by
  rw [between, List.drop_eq_nil_iff, List.length_take]
  omega

/-- The front of one part and the end of another are cut off of what stands between them. -/
theorem between_append {first inner second rest : Text} {start stop : Nat}
    (inFirst : start ≤ first.length) (inSecond : stop ≤ second.length) :
    between (first ++ (inner ++ (second ++ rest))) start (stop + (first ++ inner).length) =
      first.drop start ++ (inner ++ second.take stop) := by
  have taken : (first ++ (inner ++ (second ++ rest))).take (stop + (first ++ inner).length) =
      first ++ (inner ++ second.take stop) := by
    rw [← List.append_assoc, Nat.add_comm, List.take_length_add_append,
      List.take_append_of_le_length inSecond, List.append_assoc]
  rw [between, taken, List.drop_append_of_le_length inFirst]

theorem between_append_left (front text : Text) (start stop : Nat) :
    between (front ++ text) (start + front.length) (stop + front.length) =
      between text start stop := by
  rw [between, Nat.add_comm stop, List.take_length_add_append, Nat.add_comm start,
    List.drop_length_add_append, between]

/-- The part from a position on, up to where the next one starts if there is one. -/
def partFrom (text : Text) (start : Nat) (stop? : Option Nat) : Text :=
  match stop? with
  | some stop => between text start stop
  | none => text.drop start

/-- The sections of a report whose cases and implementation start at given positions. -/
def sectionsAt (text : Text) (start middle : Nat) : Sections where
  cases := Text.trim (between text start middle)
  implementation := Text.trim (partFrom text middle (Text.find? "(C)" text))
  selfCheck := Text.trim ((Text.find? "(C)" text).elim [] text.drop)

/-- The sections lie between the first tags. -/
theorem ofText_of_find? {text : Text} {start middle : Nat}
    (startFound : Text.find? "(A)" text = some start)
    (middleFound : Text.find? "(B)" text = some middle) :
    Sections.ofText text = .ok (sectionsAt text start middle) := by
  rw [Sections.ofText, startFound, middleFound, sectionsAt]
  cases Text.find? "(C)" text <;> rfl

theorem exists_of_ofText {text : Text} {sections : Sections}
    (isText : Sections.ofText text = .ok sections) :
    ∃ start middle, Text.find? "(A)" text = some start ∧ Text.find? "(B)" text = some middle ∧
      sections = sectionsAt text start middle := by
  cases startFound : Text.find? "(A)" text with
  | none =>
    rw [Sections.ofText, startFound] at isText
    cases isText
  | some start =>
    cases middleFound : Text.find? "(B)" text with
    | none =>
      rw [Sections.ofText, startFound, middleFound] at isText
      cases isText
    | some middle =>
      rw [ofText_of_find? startFound middleFound] at isText
      exact ⟨start, middle, rfl, rfl, (Except.ok.inj isText).symm⟩

/-- A report is divided if both sections and the code are found. -/
theorem divide_eq_ok_iff {text : Text} {sections : Sections} {implementation : Implementation} :
    divide text = .ok (sections, implementation) ↔
      Sections.ofText text = .ok sections ∧
        Implementation.ofSection sections.implementation = .ok implementation := by
  rw [divide]
  cases Sections.ofText text with
  | error fault => exact ⟨nofun, nofun⟩
  | ok found =>
    show (Implementation.ofSection found.implementation).bind (fun read => .ok (found, read)) = _ ↔
      _
    constructor
    · intro both
      cases outcome : Implementation.ofSection found.implementation with
      | error fault =>
        rw [outcome] at both
        cases both
      | ok read =>
        rw [outcome] at both
        cases both
        exact ⟨rfl, outcome⟩
    · rintro ⟨same, read⟩
      cases same
      rw [read]
      rfl

end BrowserPlan.Report
