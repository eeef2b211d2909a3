/-
This file proves that the check of a text sees no more of it than the walk over the text finds out.

The check looks into the bodies of the test methods, which it masks once more, each by itself. But a
body shows by itself what it shows in its text, under every mask, and so even that is read off the
masked text. What stands in literals and comments is not in there.
-/

import BrowserPlan.Java.Syntax
import BrowserPlan.Proofs.Java.Body

namespace BrowserPlan.Java

/-! ### Bodies in masked text -/

/-- What an outline cuts out of a text. -/
def Outline.cut (outline : Outline) (text : Text) : Text :=
  (text.drop (text.length - outline.remaining)).take outline.length

/-- It does not matter whether a body is cut out first or masked first. -/
theorem masked_cut {text : Text} {outline : Outline}
    (member : outline ∈ outlines (masked .full text)) (mask : Mask) :
    masked mask (outline.segment text).body = outline.cut (masked mask text) := by
  rw [masked_body member, Outline.cut, length_masked]

/-- The body of a test method shows by itself what its text shows between its positions. -/
theorem masked_segment {text : Text} {segment : Segment} (member : segment ∈ segments text)
    (mask : Mask) :
    masked mask segment.body =
      ((masked mask text).drop segment.start).take (segment.stop - segment.start) := by
  obtain ⟨outline, outlined, rfl⟩ := List.mem_map.mp member
  have length : (outline.segment text).stop - (outline.segment text).start = outline.length :=
    Nat.add_sub_cancel_left _ _
  rw [length]
  exact masked_body outlined mask

/-! ### The check -/

/-- Empty test methods are counted in the masked text alone. -/
theorem emptyCount_eq (text : Text) :
    emptyCount text = (outlines (masked .full text)).countP fun outline =>
      outline.closed &&
        Text.isAllBlank ((outline.cut (masked .full text)).drop 1).dropLast := by
  rw [emptyCount, segments, List.countP_map]
  refine List.countP_congr fun outline member => ?_
  rw [Function.comp_apply, isEmptyBody, masked_cut member]
  rfl

theorem checkSyntax_congr {first second : Text} (same : scan .full first = scan .full second)
    (expected : Int) : checkSyntax first expected = checkSyntax second expected := by
  have shown : masked .full first = masked .full second := congrArg Scan.masked same
  rw [checkSyntax, checkSyntax, same, emptyCount_eq, emptyCount_eq, shown]

/-- Under every mask the body of a test method shows by itself what it shows in its text, and two
texts over which the walk finds out the same are found to have the same faults. -/
theorem checkSyntax_sees_scan_alone :
    (∀ (text : Text) (segment : Segment), segment ∈ segments text → ∀ mask : Mask,
      masked mask segment.body =
        ((masked mask text).drop segment.start).take (segment.stop - segment.start)) ∧
      ∀ first second : Text, scan .full first = scan .full second → ∀ expected : Int,
        checkSyntax first expected = checkSyntax second expected :=
  ⟨fun _ _ member => masked_segment member, fun _ _ same => checkSyntax_congr same⟩

/-- A test behind a literal that is cut off, with braces in a literal and in comments; its body is
not closed. -/
def unclosedTest : Text :=
  "'\x7b\n@Test void a() \x7b \"\x7d\" /* \x7d */ // \""

/-- The same test with other braces in its literals and comments. -/
def otherUnclosedTest : Text :=
  "'\x7d\n@Test void a() \x7b \"\x7b\" /* \" */ // \x7d"

theorem checkSyntax_sees_scan_alone_of_unclosedTest :
    let segment : Segment := ⟨"a", unclosedTest.drop 18, 18, 36, false⟩
    segment ∈ segments unclosedTest ∧
      masked .commentsOnly segment.body = "\x7b \"\x7d\"             " ∧
      ((masked .commentsOnly unclosedTest).drop 18).take 18 = masked .commentsOnly segment.body ∧
      scan .full unclosedTest = scan .full otherUnclosedTest ∧
      checkSyntax unclosedTest 1 = checkSyntax otherUnclosedTest 1 := by
  intro segment
  have member : segment ∈ segments unclosedTest := by
    decide +kernel
  have same : scan .full unclosedTest = scan .full otherUnclosedTest := by
    decide +kernel
  have shown : masked .commentsOnly segment.body = "\x7b \"\x7d\"             " := by
    decide +kernel
  exact ⟨member, shown, (checkSyntax_sees_scan_alone.1 _ segment member .commentsOnly).symm, same,
    checkSyntax_sees_scan_alone.2 _ _ same 1⟩

end BrowserPlan.Java
