/-
This file proves that the bodies of test methods are cut out soundly: they stand in the text
one behind another, and each of them is a balanced span of its own, however it is looked at.

The cuts are made in the masked text of the whole file. That the body by itself is masked and
walked in the same way is the locality of the walk; that it is balanced and no shorter is the
matching of braces. What remains is the search, which goes on behind each body.
-/

import BrowserPlan.Proofs.Java.Brace
import BrowserPlan.Proofs.Java.Head
import BrowserPlan.Proofs.Java.Walk

namespace BrowserPlan.Java

/-! ### What is promised of a segment -/

/-- There are more opening than closing braces. -/
def Deep (part : Text) : Prop :=
  part.count '\x7d' < part.count '\x7b'

/-- A body that is closed: it ends at a brace, the walk over it by itself ends in code with all
braces closed and none too many, and every shorter part of it leaves a brace open. -/
structure ClosedBody (body : Text) : Prop where
  ends : ∃ inside, body = inside ++ ['\x7d']
  depth : (scan .full body).depth = 0
  lowest : (scan .full body).lowest = 0
  openRegion : (scan .full body).openRegion = .code
  deep : ∀ part, part <+: masked .full body → part ≠ [] → part ≠ masked .full body → Deep part

/-- A segment is the part of the text between its positions, starts at a brace and is closed; if
it is not, it reaches to the end of the text and leaves a brace open all along. -/
structure Segment.Sound (text : Text) (segment : Segment) : Prop where
  ordered : segment.start ≤ segment.stop ∧ segment.stop ≤ text.length
  cut : segment.body = (text.drop segment.start).take (segment.stop - segment.start)
  opens : ∃ inside, segment.body = '\x7b' :: inside
  closed : segment.terminated = true → ClosedBody segment.body
  unclosed : segment.terminated = false →
    segment.stop = text.length ∧
      ∀ part, part <+: masked .full segment.body → part ≠ [] → Deep part

/-! ### A body between braces -/

theorem deep_iff (part : Text) : Deep part ↔ 1 ≤ balance part := by
  rw [Deep, balance_eq_count]
  omega

theorem depth_scan (text : Text) : (scan .full text).depth = balance (masked .full text) := by
  rw [scan_eq, masked_eq, balance, List.map_map]
  exact congrArg depthAfter (List.map_congr_left fun cell _ => cell.weight_shown.symm)

theorem lowest_scan (text : Text) :
    (scan .full text).lowest = lowestDepth ((masked .full text).map weight) := by
  rw [scan_eq, masked_eq, List.map_map]
  exact congrArg lowestDepth (List.map_congr_left fun cell _ => cell.weight_shown.symm)

theorem closingBrace_opening (inside : Text) :
    closingBrace 0 ('\x7b' :: inside) = (closingBrace 1 inside).map (· + 1) :=
  rfl

/-- Behind an opening brace every part of what stays open is deep. -/
theorem deep_of_prefix {inside part : Text}
    (above : ∀ part, part <+: inside → 1 ≤ 1 + balance part)
    (opens : part <+: '\x7b' :: inside) (notEmpty : part ≠ []) : Deep part := by
  cases part with
  | nil => exact absurd rfl notEmpty
  | cons char part =>
    obtain ⟨rfl, opensRest⟩ := List.cons_prefix_cons.mp opens
    rw [deep_iff, balance_cons]
    exact above part opensRest

/-- A text that is masked to what stands up to a match is a closed body, if the walk over it
ends between two signs of code. -/
theorem closedBody_of_masked {body front : Text} (ends : ∃ inside, body = inside ++ ['\x7d'])
    (shown : masked .full body = '\x7b' :: front ++ ['\x7d'])
    (walk : walkFrom .start body = .start) (closes : 1 + balance front = 1)
    (above : ∀ part, part <+: front → 1 ≤ 1 + balance part) : ClosedBody body := by
  have total : balance (masked .full body) = 0 := by
    rw [shown, balance_append, balance_cons, show weight '\x7b' = 1 from rfl, closes]
    rfl
  have deep : ∀ part, part <+: masked .full body → part ≠ [] → part ≠ masked .full body →
      Deep part := by
    intro part opens notEmpty shorter
    rw [shown] at opens shorter
    rcases List.prefix_concat_iff.mp opens with whole | opens
    · exact absurd whole shorter
    · exact deep_of_prefix above opens notEmpty
  refine ⟨ends, by rw [depth_scan, total], ?_, ?_, deep⟩
  · rw [lowest_scan]
    refine le_antisymm (lowestDepth_nonpos _) (le_lowestDepth fun part opens => ?_)
    by_cases whole : part = masked .full body
    · rw [whole, total]
    · by_cases empty : part = []
      · rw [empty, balance_nil]
      · have positive := (deep_iff part).mp (deep part opens empty whole)
        omega
  · rw [openRegion_scan, walk]
    rfl

/-! ### Outlines -/

/-- The outline is that of the given masked text, which starts at the brace of the body. -/
structure Outline.Describes (outline : Outline) (shown : Text) : Prop where
  remaining : outline.remaining = shown.length
  opens : ∃ inside, shown = '\x7b' :: inside
  closed : outline.closed = true →
    ∃ distance, closingBrace 0 shown = some distance ∧ outline.length = distance + 1
  unclosed : outline.closed = false →
    closingBrace 0 shown = none ∧ outline.length = shown.length

/-- A closed body is cut out of the masked text up to its last brace. -/
theorem Outline.Describes.split {outline : Outline} {shown : Text}
    (describes : outline.Describes shown) (closed : outline.closed = true) :
    ∃ front rest, shown = '\x7b' :: front ++ '\x7d' :: rest ∧ outline.length = front.length + 2 ∧
      1 + balance front = 1 ∧ ∀ part, part <+: front → 1 ≤ 1 + balance part := by
  obtain ⟨inside, rfl⟩ := describes.opens
  obtain ⟨distance, found, length⟩ := describes.closed closed
  rw [closingBrace_opening] at found
  obtain ⟨further, foundFurther, rfl⟩ := Option.map_eq_some_iff.mp found
  obtain ⟨front, rest, rfl, rfl, closes, above⟩ := closingBrace_eq_some le_rfl foundFurther
  exact ⟨front, rest, rfl, length, closes, above⟩

theorem Outline.Describes.length_le {outline : Outline} {shown : Text}
    (describes : outline.Describes shown) : outline.length ≤ shown.length := by
  cases closed : outline.closed with
  | true =>
    obtain ⟨front, rest, rfl, length, _⟩ := describes.split closed
    rw [length]
    simp
  | false => exact (describes.unclosed closed).2.le

/-- An outline is never empty. -/
theorem Outline.Describes.length_ne_zero {outline : Outline} {shown : Text}
    (describes : outline.Describes shown) : outline.length ≠ 0 := by
  cases closed : outline.closed with
  | true =>
    obtain ⟨front, rest, _, length, _⟩ := describes.split closed
    rw [length]
    exact Nat.succ_ne_zero _
  | false =>
    obtain ⟨inside, equal⟩ := describes.opens
    rw [(describes.unclosed closed).2, equal]
    exact Nat.succ_ne_zero _

/-- Reading an outline passes over the head and the body. -/
theorem readOutline_eq_some {text behind : Text} {outline : Outline}
    (read : readOutline text = some (outline, behind)) :
    ∃ passed shown, passed ≠ [] ∧ text = passed ++ shown ∧ outline.Describes shown ∧
      behind = shown.drop outline.length := by
  obtain ⟨⟨name, shown⟩, head, found⟩ := Option.map_eq_some_iff.mp read
  obtain ⟨⟨passed, notEmpty, equal⟩, opens⟩ := readHead_eq_some head
  refine ⟨passed, shown, notEmpty, equal, ?_⟩
  simp only at found
  split at found
  · rename_i distance matched
    cases found
    refine ⟨⟨rfl, opens, fun _ => ⟨distance, matched, rfl⟩, ?_⟩, rfl⟩
    intro unclosed
    cases unclosed
  · rename_i matched
    cases found
    refine ⟨⟨rfl, opens, ?_, fun _ => ⟨matched, rfl⟩⟩, (List.drop_length).symm⟩
    intro closed
    cases closed

/-- Reading an outline always takes something. -/
theorem advances_readOutline : Text.Advances fun _ => readOutline := by
  intro _ text outline behind read
  obtain ⟨passed, shown, notEmpty, rfl, _, rfl⟩ := readOutline_eq_some read
  refine ⟨passed ++ shown.take outline.length, by simp [notEmpty], ?_⟩
  rw [List.append_assoc, List.take_append_drop]

/-- The outlines of a masked text describe rests of it. Only the last one may be open, and each
leaves room for the body of the one before. -/
theorem describes_of_findings {before : Option Char} {position : Nat} {text : Text}
    {found : List (Nat × Outline)}
    (findings : Text.Findings (fun _ => readOutline) before position text found) :
    (∀ finding ∈ found, ∃ shown, shown <:+ text ∧ finding.2.Describes shown) ∧
      found.Pairwise fun first second =>
        first.2.closed = true ∧ second.2.remaining + first.2.length ≤ first.2.remaining := by
  induction findings with
  | done => exact ⟨fun _ member => absurd member List.not_mem_nil, .nil⟩
  | miss fails further inductionHypothesis =>
    obtain ⟨describes, apart⟩ := inductionHypothesis
    refine ⟨fun finding member => ?_, apart⟩
    obtain ⟨shown, rest, describes⟩ := describes finding member
    exact ⟨shown, rest.trans (List.suffix_cons _ _), describes⟩
  | hit succeeds further inductionHypothesis =>
    rename_i _ _ passed behind outline found
    obtain ⟨describes, apart⟩ := inductionHypothesis
    obtain ⟨front, shown, _, equal, describesFirst, rest⟩ := readOutline_eq_some succeeds
    constructor
    · intro finding member
      rcases List.mem_cons.mp member with rfl | member
      · exact ⟨shown, equal ▸ List.suffix_append front shown, describesFirst⟩
      · obtain ⟨other, isRest, describesOther⟩ := describes finding member
        exact ⟨other, isRest.trans (List.suffix_append _ _), describesOther⟩
    · refine List.pairwise_cons.mpr ⟨fun finding member => ?_, apart⟩
      obtain ⟨other, isRest, describesOther⟩ := describes finding member
      have room : other.length ≤ shown.length - outline.length := by
        rw [← List.length_drop, ← rest]
        exact isRest.length_le
      have notEmpty : 0 < other.length := by
        obtain ⟨inside, rfl⟩ := describesOther.opens
        exact Nat.succ_pos _
      have fits := describesFirst.length_le
      refine ⟨?_, ?_⟩
      -- An outline that is not closed takes all that is left, and another one would start in it.
      · cases closed : outline.closed with
        | true => rfl
        | false =>
          have whole := (describesFirst.unclosed closed).2
          omega
      · rw [describesOther.remaining, describesFirst.remaining]
        show other.length + outline.length ≤ shown.length
        omega

/-! ### Segments -/

/-- The outline has what the masked text shows from the start of its segment on. -/
theorem Outline.Describes.drop_masked {text shown : Text} {outline : Outline}
    (describes : outline.Describes shown) (isRest : shown <:+ masked .full text) :
    (masked .full (text.take (text.length - outline.remaining) ++
      text.drop (text.length - outline.remaining))).drop
        (text.take (text.length - outline.remaining)).length = shown := by
  have position : (text.take (text.length - outline.remaining)).length =
      text.length - outline.remaining := by
    rw [List.length_take, Nat.min_eq_left (Nat.sub_le _ _)]
  rw [List.take_append_drop, position, describes.remaining, ← length_masked .full text]
  exact (List.suffix_iff_eq_drop.mp isRest).symm

/-- What stands from the start of a segment on is masked by itself as the outline has it. -/
theorem Outline.Describes.masked_drop {text shown : Text} {outline : Outline}
    (describes : outline.Describes shown) (isRest : shown <:+ masked .full text) :
    masked .full (text.drop (text.length - outline.remaining)) = shown := by
  obtain ⟨inside, opens⟩ := describes.opens
  have found := describes.drop_masked isRest
  rw [opens] at found ⊢
  exact masked_of_shown_brace (by decide) found

/-- What is cut out of a text behind a closing brace that shows ends at the brace and is painted
as it is in the text, and the walk over it ends between two signs of code. -/
theorem take_of_shown_closing {back front rest : Text}
    (shown : masked .full back = front ++ '\x7d' :: rest) :
    (∃ inside, back.take (front.length + 1) = inside ++ ['\x7d']) ∧
      cells (back.take (front.length + 1)) = (cells back).take (front.length + 1) ∧
      walkFrom .start (back.take (front.length + 1)) = .start := by
  have length : (back.take front.length).length = front.length := by
    rw [List.length_take, ← length_masked .full back, shown]
    simp
  have found : (masked .full (back.take front.length ++ back.drop front.length)).drop
      (back.take front.length).length = '\x7d' :: rest := by
    rw [List.take_append_drop, length, shown]
    exact List.drop_left' rfl
  obtain ⟨after, behind, _⟩ := between_of_shown_brace (by decide) found
  obtain ⟨cells, walk⟩ := cells_concat_of_shown_brace (by decide) found
  have body : back.take (front.length + 1) = back.take front.length ++ ['\x7d'] := by
    rw [List.take_add, behind]
    rfl
  rw [← body] at cells walk
  rw [List.take_append_drop, length] at cells
  exact ⟨⟨_, body⟩, cells, walk⟩

/-- What is cut out of a text up to a match is a closed body. -/
theorem closedBody_of_split {back front rest : Text}
    (shown : masked .full back = '\x7b' :: front ++ '\x7d' :: rest)
    (closes : 1 + balance front = 1) (above : ∀ part, part <+: front → 1 ≤ 1 + balance part) :
    ClosedBody (back.take (front.length + 2)) := by
  obtain ⟨ends, painted, walk⟩ := take_of_shown_closing shown
  refine closedBody_of_masked ends ?_ walk closes above
  rw [masked_eq, show front.length + 2 = ('\x7b' :: front).length + 1 from rfl, painted,
    List.map_take, ← masked_eq, shown, List.take_append, List.take_of_length_le (Nat.le_succ _)]
  simp

/-- The segment of an outline is sound. -/
theorem Outline.Describes.sound {text shown : Text} {outline : Outline}
    (describes : outline.Describes shown) (isRest : shown <:+ masked .full text) :
    (outline.segment text).Sound text := by
  have back := describes.masked_drop isRest
  obtain ⟨inside, opens⟩ := describes.opens
  have length : (text.drop (text.length - outline.remaining)).length = shown.length := by
    rw [← back, length_masked]
  refine ⟨⟨Nat.le_add_right _ _, ?_⟩, ?_, ?_, fun closed => ?_, fun unclosed => ?_⟩
  · show text.length - outline.remaining + outline.length ≤ text.length
    have fits := describes.length_le
    rw [List.length_drop] at length
    omega
  · show List.take _ _ = List.take (text.length - outline.remaining + outline.length -
      (text.length - outline.remaining)) _
    rw [Nat.add_sub_cancel_left]
    rfl
  · obtain ⟨after, equal, _⟩ := @between_of_shown_brace [] _ _ '\x7b' (by decide)
      (back.trans opens)
    obtain ⟨shorter, positive⟩ := Nat.exists_eq_succ_of_ne_zero describes.length_ne_zero
    refine ⟨after.take shorter, ?_⟩
    show List.take _ (List.drop _ text) = _
    rw [equal, positive, List.take_succ_cons]
  · obtain ⟨front, rest, equal, size, closes, above⟩ := describes.split closed
    show ClosedBody (List.take outline.length _)
    rw [size]
    exact closedBody_of_split (back.trans equal) closes above
  · obtain ⟨missing, size⟩ := describes.unclosed unclosed
    constructor
    · show text.length - outline.remaining + outline.length = text.length
      rw [List.length_drop] at length
      rw [size, ← describes.remaining]
      rw [← describes.remaining] at length
      omega
    · show ∀ part, part <+: masked .full (List.take outline.length _) → _
      rw [size, ← length, List.take_length, back, opens]
      rw [opens, closingBrace_opening, Option.map_eq_none_iff] at missing
      intro part opensPart notEmpty
      exact deep_of_prefix (closingBrace_eq_none le_rfl missing) opensPart notEmpty

/-- The bodies of the test methods of a text are cut out soundly: each is the part of the text
between its positions, starts at a brace and, if it is closed, is a balanced span by itself and
no shorter. They stand one behind another, and none but the last can be unclosed. -/
theorem segments_sound (text : Text) :
    (∀ segment ∈ segments text, segment.Sound text) ∧
      (segments text).Pairwise fun first second =>
        first.terminated = true ∧ first.stop ≤ second.start := by
  obtain ⟨describes, apart⟩ := describes_of_findings
    (Text.findings_findFrom advances_readOutline none 0 (masked .full text))
  constructor
  · intro segment member
    obtain ⟨outline, memberOutline, rfl⟩ := List.mem_map.mp member
    obtain ⟨finding, memberFinding, rfl⟩ := List.mem_map.mp memberOutline
    obtain ⟨shown, isRest, describesShown⟩ := describes finding memberFinding
    exact describesShown.sound isRest
  · refine List.pairwise_map.mpr (List.pairwise_map.mpr (List.Pairwise.imp_of_mem ?_ apart))
    intro first second memberFirst memberSecond ⟨closed, room⟩
    obtain ⟨shown, isRest, describesShown⟩ := describes first memberFirst
    have short : first.2.remaining ≤ text.length := by
      rw [describesShown.remaining, ← length_masked .full text]
      exact isRest.length_le
    refine ⟨closed, ?_⟩
    show text.length - first.2.remaining + first.2.length ≤ text.length - second.2.remaining
    omega

end BrowserPlan.Java
