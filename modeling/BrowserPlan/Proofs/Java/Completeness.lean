/-
This file proves that test methods are found completely: a text that is written as test methods with
gaps between them is cut into just these methods, each with its name and its body.

The masked text is that of the parts one behind another. In a gap no test starts, so the search
passes over it to the next head, which is read back. Behind the head the brace of the method stays
open all along the body, and so the search goes on behind the brace that closes it, whatever the
body shows.
-/

import BrowserPlan.Proofs.Java.Brace
import BrowserPlan.Proofs.Java.Method
import BrowserPlan.Proofs.Java.Segment
import BrowserPlan.Proofs.Text.Cut

namespace BrowserPlan.Java

/-! ### Searching for outlines -/

/-- A character at which no test begins is passed by. -/
theorem outlines_miss {char : Char} {text : Text} (miss : readOutline (char :: text) = none) :
    outlines (char :: text) = outlines text := by
  rw [outlines, Text.findAll, Text.findFrom_miss miss]
  exact Text.map_snd_findFrom _ _ _ _ _ _ _

/-- A test is outlined where it begins, and the search goes on behind it. -/
theorem outlines_hit {passed rest : Text} {outline : Outline} (notEmpty : passed ≠ [])
    (hit : readOutline (passed ++ rest) = some (outline, rest)) :
    outlines (passed ++ rest) = outline :: outlines rest := by
  rw [outlines, Text.findAll, Text.findFrom_hit notEmpty hit, List.map_cons]
  exact congrArg (outline :: ·) (Text.map_snd_findFrom _ _ _ _ _ _ _)

theorem readOutline_eq_none {text : Text} (other : ¬ ("@Test" : Text) <+: text) :
    readOutline text = none := by
  rw [readOutline, readHead, testMark?, Text.keyword?, Text.after?_eq_none other]
  rfl

/-- No outline starts where no test is marked. -/
theorem outlines_append_of_isApart {front : Text} (apart : Text.isApart "@Test" front = true)
    (rest : Text) : outlines (front ++ rest) = outlines rest := by
  induction front with
  | nil => rfl
  | cons char front inductionHypothesis =>
    have miss : readOutline (char :: (front ++ rest)) = none :=
      readOutline_eq_none (Text.not_prefix_append_of_isApart apart rest)
    rw [List.cons_append, outlines_miss miss, inductionHypothesis (Text.isApart_cons.mp apart).2.2]

/-! ### Gaps between test methods -/

/-- What stands around test methods: lines that show no mark of a test. -/
structure Between extends Lines where
  noTest : ¬ ("@Test" : Text) <:+: masked .full text

/-- Lines end as they do under every mask. -/
theorem EndsWithLine.masked {text : Text} (ends : EndsWithLine text) (mask : Mask) :
    EndsWithLine (masked mask text) := by
  obtain rfl | ⟨front, rfl⟩ := ends
  · exact .inl rfl
  · refine .inr ⟨(cellsOver .start front ['\n']).map (Cell.shown mask), ?_⟩
    rw [masked_eq, cells, cellsFrom_append, List.map_append]
    simp [cellsFrom, Cell.shown]

/-- No mark of a test is in or runs out of what is between tests. -/
theorem Between.isApart (between : Between) :
    Text.isApart "@Test" (masked .full between.text) = true := by
  obtain empty | ⟨front, equal⟩ := between.ends.masked .full
  · rw [empty]
    rfl
  · have notHeld : ¬ ("@Test" : Text) <:+: front := fun held =>
      between.noTest (held.trans (equal ▸ (List.prefix_append front ['\n']).isInfix))
    rw [equal]
    exact Text.isApart_concat notHeld (by decide)

/-! ### Bodies -/

/-- The brace in front of a body is closed behind the body. -/
theorem Body.closingBrace (body : Body) (rest : Text) :
    closingBrace 0 ('\x7b' :: (masked .full body.text ++ '\x7d' :: rest)) =
      some (body.text.length + 1) := by
  have depth : balance (masked .full body.text) = 0 := by
    rw [← depth_scan, body.depth]
  have above : ∀ part, part <+: masked .full body.text → 1 ≤ 1 + balance part := by
    intro part opens
    have lowest := lowestDepth_le opens
    rw [← lowest_scan, body.lowest] at lowest
    omega
  rw [closingBrace_opening, closingBrace_append above (by rw [depth]; rfl), length_masked]
  rfl

/-! ### Test methods -/

/-- A test method as it shows under the full mask. -/
def WrittenTest.shown (method : WrittenTest) : Text :=
  method.head (shownLiteral .full) ++ ('\x7b' :: (masked .full method.body.text ++ ['\x7d']))

theorem WrittenTest.showsAs (method : WrittenTest) : ShowsAs .full method.text method.shown := by
  have opening : ShowsAs .full ['\x7b'] ['\x7b'] := showsAs_code rfl .full
  have closing : ShowsAs .full ['\x7d'] ['\x7d'] := showsAs_code rfl .full
  exact (method.showsAs_head .full).append
    (opening.append ((method.body.toLines.showsAs .full).append closing))

/-- The outline of a test method with the given text behind it. -/
def WrittenTest.outline (method : WrittenTest) (rest : Text) : Outline :=
  { name := method.name.text
    remaining := (method.block ++ rest).length
    length := method.block.length
    closed := true }

/-- The outline of a written test is read back, whatever follows. -/
theorem WrittenTest.readOutline_shown (method : WrittenTest) (rest : Text) :
    readOutline (method.shown ++ masked .full rest) =
      some (method.outline rest, masked .full rest) := by
  have parts : method.shown ++ masked .full rest = method.head (shownLiteral .full) ++
      '\x7b' :: (masked .full method.body.text ++ '\x7d' :: masked .full rest) := by
    simp [shown]
  rw [readOutline, parts, method.readHead_head not_mem_shownLiteral, Option.map_some]
  simp only [method.body.closingBrace]
  have left : ('\x7b' :: (masked .full method.body.text ++ '\x7d' :: masked .full rest)).drop
      (method.body.text.length + 1 + 1) = masked .full rest := by
    rw [List.drop_succ_cons, List.append_cons]
    exact List.drop_left' (by rw [List.length_append, length_masked]; rfl)
  rw [left]
  simp [outline, block, length_masked]

/-! ### Whole texts -/

/-- Test methods with what stands in front of the first and behind each of them. -/
def written (gap : Between) (tests : List (WrittenTest × Between)) : Text :=
  gap.text ++ tests.flatMap fun (method, behind) => method.text ++ behind.text

theorem written_nil (gap : Between) : written gap [] = gap.text :=
  List.append_nil gap.text

theorem written_cons (gap behind : Between) (method : WrittenTest)
    (tests : List (WrittenTest × Between)) :
    written gap ((method, behind) :: tests) =
      gap.text ++ (method.text ++ written behind tests) := by
  rw [written, List.flatMap_cons, List.append_assoc]
  rfl

theorem outlines_written_cons (gap behind : Between) (method : WrittenTest)
    (tests : List (WrittenTest × Between)) :
    outlines (masked .full (written gap ((method, behind) :: tests))) =
      method.outline (written behind tests) :: outlines (masked .full (written behind tests)) := by
  rw [written_cons, gap.toLines.showsAs, method.showsAs, outlines_append_of_isApart gap.isApart]
  exact outlines_hit (by unfold WrittenTest.shown; simp) (method.readOutline_shown _)

/-- What a segment says of its test method, wherever that stands. -/
def Segment.content (segment : Segment) : Text × Text × Bool :=
  (segment.name, segment.body, segment.terminated)

/-- The outline of a written test leads to its name and its body. -/
theorem WrittenTest.content_outline (method : WrittenTest) (front rest : Text) :
    ((method.outline rest).segment (front ++ (method.block ++ rest))).content =
      (method.name.text, method.block, true) := by
  have position : (front ++ (method.block ++ rest)).length - (method.block ++ rest).length =
      front.length := by
    rw [List.length_append, Nat.add_sub_cancel]
  have body : ((method.outline rest).segment (front ++ (method.block ++ rest))).body =
      method.block := by
    show ((front ++ (method.block ++ rest)).drop (_ - (method.block ++ rest).length)).take
      method.block.length = _
    rw [position, List.drop_left' rfl, List.take_left' rfl]
  rw [Segment.content, body]
  rfl

/-- Each of some written tests is outlined with its name and its body. -/
theorem content_outlines_written (gap : Between) (tests : List (WrittenTest × Between))
    (front : Text) :
    (outlines (masked .full (written gap tests))).map
        (fun outline => (outline.segment (front ++ written gap tests)).content) =
      tests.map fun (method, _) => (method.name.text, method.block, true) := by
  -- An outline counts from the end of the text, so it stays the same with more text in front.
  induction tests generalizing gap front with
  | nil =>
    have nothing := outlines_append_of_isApart gap.isApart []
    rw [List.append_nil] at nothing
    rw [written_nil, nothing]
    rfl
  | cons test tests inductionHypothesis =>
    obtain ⟨method, behind⟩ := test
    have first := method.content_outline (front ++ (gap.text ++ method.head literal))
      (written behind tests)
    have later := inductionHypothesis behind (front ++ (gap.text ++ method.text))
    have parts : front ++ written gap ((method, behind) :: tests) =
        front ++ (gap.text ++ method.head literal) ++ (method.block ++ written behind tests) := by
      rw [written_cons, WrittenTest.text]
      simp only [List.append_assoc]
    have split : front ++ written gap ((method, behind) :: tests) =
        front ++ (gap.text ++ method.text) ++ written behind tests := by
      rw [written_cons]
      simp only [List.append_assoc]
    rw [outlines_written_cons, List.map_cons, List.map_cons]
    refine congrArg₂ List.cons ?_ ?_
    · rw [parts, first]
    · rw [split, later]

/-- A text that is written as test methods is cut into just these methods, in order and all of them
closed, each with its name and with its body. -/
theorem segments_written (gap : Between) (tests : List (WrittenTest × Between)) :
    (segments (written gap tests)).map Segment.content =
      tests.map fun (method, _) => (method.name.text, method.block, true) := by
  rw [segments, List.map_map]
  exact content_outlines_written gap tests []

/-! ### A text with marks and braces that do not count -/

/-- A line with the mark of a test in a comment. -/
def commentedMark : Between where
  text := "// @Test \x7b\n"
  ends := .inr ⟨"// @Test \x7b", by decide +kernel⟩
  openRegion := by decide +kernel
  noTest := by
    rw [← Text.holds_iff]
    decide +kernel

/-- A single space between words. -/
def oneSpace : Space where
  text := " "
  blank := by decide +kernel
  notEmpty := by decide +kernel

/-- A test method around another one, with braces and quotes in its literals. -/
def nestingMethod : WrittenTest where
  behindMark := oneSpace
  title? := some ⟨"(\x7d) \"", oneSpace⟩
  modifiers := [⟨"public", by decide +kernel, oneSpace⟩, ⟨"final", by decide +kernel, oneSpace⟩]
  behindVoid := oneSpace
  name := ⟨"a_1", by decide +kernel, List.all_eq_true.mp (by decide +kernel)⟩
  behindParameters := oneSpace.toGap
  exceptions? := some
    { before := oneSpace
      first := ⟨"b.C", by decide +kernel, List.all_eq_true.mp (by decide +kernel)⟩
      more := [⟨⟨[], rfl⟩, oneSpace.toGap, "D", by decide +kernel,
        List.all_eq_true.mp (by decide +kernel)⟩]
      behind := oneSpace.toGap }
  body :=
    { text := "@Test void e() \x7b f(\"\x7d\"); \x7d // \x7d\n"
      ends := .inr ⟨"@Test void e() \x7b f(\"\x7d\"); \x7d // \x7d", by decide +kernel⟩
      openRegion := by decide +kernel
      depth := by decide +kernel
      lowest := by decide +kernel }

/-- A test in a class with braces in literals and comments all around. -/
def nestingText : Text :=
  "// @Test \x7b\n@Test @DisplayName(\"(\x7d) \\\"\") public final void a_1() throws b.C, D \x7b" ++
    "@Test void e() \x7b f(\"\x7d\"); \x7d // \x7d\n\x7d// @Test \x7b\n"

/-- A test with a class and with braces in texts and comments inside. -/
theorem segments_nestingText :
    written commentedMark [(nestingMethod, commentedMark)] = nestingText ∧
      (segments nestingText).map Segment.content =
        [(nestingMethod.name.text, nestingMethod.block, true)] := by
  have parts : written commentedMark [(nestingMethod, commentedMark)] = nestingText := by
    decide +kernel
  have found := segments_written commentedMark [(nestingMethod, commentedMark)]
  rw [parts] at found
  exact ⟨parts, found⟩

end BrowserPlan.Java
