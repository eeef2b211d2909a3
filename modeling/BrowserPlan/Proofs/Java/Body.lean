/-
This file proves that the body of a test method is painted by itself as it is painted inside of
its text, so that the two can be masked in either order: first cut out, then masked, or first
masked, then cut out.

A body starts at a brace that shows, and so the walk over it starts afresh there; if it is
closed it ends at such a brace, behind which nothing is seen. If it is not closed it reaches to
the end of the text, and then there is nothing behind it.
-/

import BrowserPlan.Proofs.Java.Segment

namespace BrowserPlan.Java

/-! ### The part from a brace on -/

/-- A part of a text that starts where a brace shows is painted as it is by itself. -/
theorem drop_cells_of_shown_brace {front back rest : Text} {brace : Char}
    (isBrace : weight brace ≠ 0)
    (found : (masked .full (front ++ back)).drop front.length = brace :: rest) :
    (cells (front ++ back)).drop front.length = cells back := by
  obtain ⟨after, rfl, region, between, _⟩ := between_of_shown_brace isBrace found
  rw [cells, cellsFrom_append, List.drop_left' (length_cellsOver _ _ _),
    cellsFrom_eq_cells region between]

/-- Behind a head that is found the walk starts afresh. -/
theorem Outline.Describes.drop_cells {text shown : Text} {outline : Outline}
    (describes : outline.Describes shown) (isRest : shown <:+ masked .full text) :
    (cells text).drop (text.length - outline.remaining) =
      cells (text.drop (text.length - outline.remaining)) := by
  obtain ⟨inside, opens⟩ := describes.opens
  have found := describes.drop_masked isRest
  rw [opens] at found
  have painted := drop_cells_of_shown_brace (by decide) found
  rwa [List.take_append_drop, List.length_take, Nat.min_eq_left (Nat.sub_le _ _)] at painted

/-! ### Bodies -/

/-- The body of an outline is painted as it is inside of the text. -/
theorem Outline.Describes.cells_body {text shown : Text} {outline : Outline}
    (describes : outline.Describes shown) (isRest : shown <:+ masked .full text) :
    cells (outline.segment text).body =
      ((cells text).drop (text.length - outline.remaining)).take outline.length := by
  have back := describes.masked_drop isRest
  rw [describes.drop_cells isRest]
  show cells (List.take outline.length _) = _
  cases closed : outline.closed with
  | true =>
    obtain ⟨front, rest, equal, size, _⟩ := describes.split closed
    rw [size]
    exact (take_of_shown_closing (back.trans equal)).2.1
  | false =>
    have whole : (text.drop (text.length - outline.remaining)).length ≤ outline.length := by
      rw [(describes.unclosed closed).2, ← back, length_masked]
    have painted : (cells (text.drop (text.length - outline.remaining))).length ≤
        outline.length := by
      rwa [cells, length_cellsFrom]
    rw [List.take_of_length_le whole, List.take_of_length_le painted]

/-- An outline of a masked text describes a rest of it. -/
theorem describes_of_mem_outlines {shown : Text} {outline : Outline}
    (member : outline ∈ outlines shown) : ∃ rest, rest <:+ shown ∧ outline.Describes rest := by
  obtain ⟨finding, found, rfl⟩ := List.mem_map.mp member
  exact (describes_of_findings
    (Text.findings_findFrom advances_readOutline none 0 shown)).1 finding found

/-- Under every mask, the body of a test method shows by itself what it shows in its text. -/
theorem masked_body {text : Text} {outline : Outline}
    (member : outline ∈ outlines (masked .full text)) (mask : Mask) :
    masked mask (outline.segment text).body =
      ((masked mask text).drop (text.length - outline.remaining)).take outline.length := by
  obtain ⟨shown, isRest, describes⟩ := describes_of_mem_outlines member
  rw [masked_eq, masked_eq, describes.cells_body isRest, List.map_take, List.map_drop]

end BrowserPlan.Java
