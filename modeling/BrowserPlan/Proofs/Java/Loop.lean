/-
This file proves that the loop over Java text finds what is painted on the text.

A round of the loop passes over one sign: it goes on in the region of the sign and behind its
last character, and its piece is what shows of the characters of the sign. Round by round this
adds up to the whole text, and so the outcome of the loop is read off the painted characters.
-/

import BrowserPlan.Proofs.Java.Paint
import Mathlib.Algebra.Order.Group.Int

namespace BrowserPlan.Java

/-! ### Cells one behind another -/

theorem depthAfter_append (front back : List Int) :
    depthAfter (front ++ back) = depthAfter front + depthAfter back := by
  induction front with
  | nil => exact (Int.zero_add _).symm
  | cons step front inductionHypothesis =>
    rw [List.cons_append, depthAfter, depthAfter, inductionHypothesis, Int.add_assoc]

theorem lowestDepth_nonpos (steps : List Int) : lowestDepth steps ≤ 0 := by
  cases steps with
  | nil => exact le_rfl
  | cons step steps =>
    rw [lowestDepth]
    exact min_le_left _ _

/-- The lowest depth of two parts is that of the first or one that the second reaches from there. -/
theorem lowestDepth_append (front back : List Int) :
    lowestDepth (front ++ back) =
      min (lowestDepth front) (depthAfter front + lowestDepth back) := by
  induction front with
  | nil =>
    have start := lowestDepth_nonpos back
    show _ = min 0 (0 + _)
    rw [Int.zero_add, min_eq_right start]
    rfl
  | cons step front inductionHypothesis =>
    rw [List.cons_append, lowestDepth, inductionHypothesis, lowestDepth, depthAfter]
    omega

/-- The lowest depth is not above the last. -/
theorem lowestDepth_le_depthAfter (steps : List Int) : lowestDepth steps ≤ depthAfter steps := by
  induction steps with
  | nil => exact le_rfl
  | cons step steps inductionHypothesis =>
    rw [lowestDepth, depthAfter]
    omega

/-- The second of two parts starts on the line on which the first ends. -/
theorem cutOffFrom_append (line : Nat) (front back : List Cell) :
    cutOffFrom line (front ++ back) =
      cutOffFrom line front ++
        cutOffFrom (line + (front.map Cell.char).count '\n') back := by
  induction front generalizing line with
  | nil => rfl
  | cons cell front inductionHypothesis =>
    have lines : (if cell.char = '\n' then line + 1 else line) +
        (front.map Cell.char).count '\n' =
          line + ((cell :: front).map Cell.char).count '\n' := by
      rw [List.map_cons, List.count_cons]
      by_cases newline : cell.char = '\n'
      · simp [newline]
        omega
      · simp [newline]
    rw [List.cons_append, cutOffFrom, cutOffFrom, inductionHypothesis, lines]
    split <;> rfl

theorem cutOffFrom_eq_nil {cells : List Cell} (quiet : ∀ cell ∈ cells, cell.cutsOff = false)
    (line : Nat) : cutOffFrom line cells = [] := by
  induction cells generalizing line with
  | nil => rfl
  | cons cell cells inductionHypothesis =>
    obtain ⟨here, later⟩ := List.forall_mem_cons.mp quiet
    rw [cutOffFrom, if_neg (Bool.eq_false_iff.mp here)]
    exact inductionHypothesis later _

theorem Cell.cutsOff_eq_false {cell : Cell} (calm : cell.paint ≠ .plain ∨ cell.char ≠ '\n') :
    cell.cutsOff = false := by
  rw [Cell.cutsOff]
  rcases calm with painted | other
  · simp [painted]
  · simp [other]

/-- Where no character weighs anything, the depth stays what it is. -/
theorem depths_of_weightless {painted : List Cell}
    (weightless : ∀ cell ∈ painted, cell.weight = 0) :
    depthAfter (painted.map Cell.weight) = 0 ∧ lowestDepth (painted.map Cell.weight) = 0 := by
  induction painted with
  | nil => exact ⟨rfl, rfl⟩
  | cons cell painted inductionHypothesis =>
    obtain ⟨here, later⟩ := List.forall_mem_cons.mp weightless
    obtain ⟨depth, lowest⟩ := inductionHypothesis later
    rw [List.map_cons, depthAfter, lowestDepth, here, depth, lowest]
    exact ⟨rfl, rfl⟩

/-! ### What the loop finds on its way -/

/-- On its way to a later place the loop finds what the given characters show under the mask.
The first of them stands in the line `line`. -/
structure Loop.Finds (mask : Mask) (line : Nat) (loop later : Loop) (painted : List Cell) :
    Prop where
  masked : later.masked = loop.masked ++ painted.map (Cell.shown mask)
  depth : later.depth = loop.depth + depthAfter (painted.map Cell.weight)
  lowest : loop.lowest ≤ loop.depth →
    later.lowest = min loop.lowest (loop.depth + lowestDepth (painted.map Cell.weight))
  cutOff : later.cutOff = loop.cutOff ++ cutOffFrom line painted

theorem Loop.finds_nil (mask : Mask) (line : Nat) (loop : Loop) :
    loop.Finds mask line loop [] where
  masked := (List.append_nil _).symm
  depth := (Int.add_zero _).symm
  lowest := by
    intro below
    show _ = min _ (_ + 0)
    rw [Int.add_zero, min_eq_left below]
  cutOff := (List.append_nil _).symm

/-- The lowest depth so far is never above the depth. -/
theorem Loop.Finds.lowest_le_depth {mask : Mask} {line : Nat} {loop later : Loop}
    {painted : List Cell} (finds : loop.Finds mask line later painted)
    (below : loop.lowest ≤ loop.depth) : later.lowest ≤ later.depth := by
  have := lowestDepth_le_depthAfter (painted.map Cell.weight)
  rw [finds.lowest below, finds.depth]
  omega

/-- What a loop finds in two parts one after the other it finds in both. -/
theorem Loop.Finds.append {mask : Mask} {line : Nat} {loop middle later : Loop}
    {painted more : List Cell} (first : loop.Finds mask line middle painted)
    (second : middle.Finds mask (line + (painted.map Cell.char).count '\n') later more) :
    loop.Finds mask line later (painted ++ more) where
  masked := by rw [second.masked, first.masked, List.append_assoc, List.map_append]
  depth := by
    rw [second.depth, first.depth, List.map_append, depthAfter_append, Int.add_assoc]
  lowest := by
    intro below
    rw [second.lowest (first.lowest_le_depth below), first.lowest below, first.depth,
      List.map_append, lowestDepth_append]
    omega
  cutOff := by rw [second.cutOff, first.cutOff, List.append_assoc, cutOffFrom_append]

/-! ### One round -/

/-- The characters of the sign that starts with a character. -/
def signCells (region : Region) (char : Char) (following : Text) : List Cell :=
  let sign := sign region char following
  paintedSign region sign.region sign.paint (char :: following.take sign.owed)

/-- From one place to a later one the loop passes over the sign that starts with a character. -/
structure Loop.PassesOver (mask : Mask) (line : Nat) (loop later : Loop) (source : Region)
    (char : Char) (following : Text) : Prop where
  region : later.region = (sign source char following).region
  position : later.position = loop.position + ((sign source char following).owed + 1)
  finds : loop.Finds mask line later (signCells source char following)

theorem Loop.masked_goOn (loop : Loop) (piece : Text) (moved : Nat) (region : Region) :
    (loop.goOn piece moved region).masked = loop.masked ++ piece := by
  simp [Loop.masked, Loop.goOn]

/-- A character that is neither a brace of code nor cuts a literal off. -/
def Cell.Quiet (cell : Cell) : Prop :=
  cell.weight = 0 ∧ cell.cutsOff = false

/-- A hidden character neither counts nor cuts anything off. -/
theorem Cell.quiet_of_hidden {cell : Cell} (hidden : cell.paint ≠ .plain) : cell.Quiet :=
  ⟨if_neg hidden, Cell.cutsOff_eq_false (.inl hidden)⟩

theorem Cell.quiet_of_char {cell : Cell} (weightless : Java.weight cell.char = 0)
    (notNewline : cell.char ≠ '\n') : cell.Quiet :=
  ⟨by rw [Cell.weight, weightless, ite_self], Cell.cutsOff_eq_false (.inr notNewline)⟩

/-- The loop finds a quiet piece by going on behind it. -/
theorem Loop.finds_goOn {mask : Mask} {painted : List Cell} {piece : Text}
    (shows : piece = painted.map (Cell.shown mask)) (quiet : ∀ cell ∈ painted, cell.Quiet)
    (line : Nat) (loop : Loop) (moved : Nat) (region : Region) :
    loop.Finds mask line (loop.goOn piece moved region) painted := by
  obtain ⟨depth, lowest⟩ := depths_of_weightless fun cell member => (quiet cell member).1
  constructor
  · rw [loop.masked_goOn, shows]
  · rw [depth, Int.add_zero]
    rfl
  · intro below
    rw [lowest, Int.add_zero, min_eq_left below]
    rfl
  · rw [cutOffFrom_eq_nil fun cell member => (quiet cell member).2, List.append_nil]
    rfl

/-- What shows of a character that may be hidden. -/
theorem shown_of_paint (mask : Mask) (char : Char) (region : Region) (paint : Paint) :
    Cell.shown mask ⟨char, region, paint⟩ = if mask.hides paint then blankOf char else char := by
  cases hides : mask.hides paint <;> by_cases newline : char = '\n' <;>
    simp [Cell.shown, blankOf, hides, newline]

/-- The loop passes over a quiet sign by appending what shows of it and going on behind it. -/
theorem Loop.passesOver_goOn {mask : Mask} {source target : Region} {char : Char}
    {following piece : Text} {owed : Nat} {paint : Paint}
    (opens : sign source char following = ⟨target, owed, paint⟩)
    (shows : piece =
      (paintedSign source target paint (char :: following.take owed)).map (Cell.shown mask))
    (quiet : ∀ cell ∈ paintedSign source target paint (char :: following.take owed), cell.Quiet)
    (line : Nat) (loop : Loop) :
    loop.PassesOver mask line (loop.goOn piece (owed + 1) target) source char following := by
  constructor
  · rw [opens]
    rfl
  · rw [opens]
    rfl
  · rw [signCells, opens]
    exact loop.finds_goOn shows quiet line _ _

theorem quiet_paintedSign {source target : Region} {paint : Paint} (hidden : paint ≠ .plain)
    (text : Text) : ∀ cell ∈ paintedSign source target paint text, cell.Quiet := by
  intro cell member
  refine Cell.quiet_of_hidden ?_
  cases text with
  | nil => cases member
  | cons char more =>
    obtain rfl | later := List.mem_cons.mp member
    · exact hidden
    · obtain ⟨_, _, rfl⟩ := List.mem_map.mp later
      exact hidden

/-- The loop passes over one character of a comment or of a literal. -/
theorem Loop.passesOver_one {mask : Mask} {source : Region} {char : Char} {following : Text}
    {paint : Paint} (opens : sign source char following = ⟨source, 0, paint⟩)
    (hidden : paint ≠ .plain) (line : Nat) (loop : Loop) :
    loop.PassesOver mask line
      (loop.goOn [if mask.hides paint then blankOf char else char] 1 source) source char
        following := by
  refine Loop.passesOver_goOn opens ?_ (quiet_paintedSign hidden _) line loop
  simp [paintedSign, paintedIn, shown_of_paint]

/-- The loop passes over two characters of a comment or of a literal. -/
theorem Loop.passesOver_two {mask : Mask} {source target : Region} {char next : Char}
    {rest : Text} {paint : Paint} (opens : sign source char (next :: rest) = ⟨target, 1, paint⟩)
    (hidden : paint ≠ .plain) (line : Nat) (loop : Loop) :
    loop.PassesOver mask line
      (loop.goOn (if mask.hides paint then [blankOf char, blankOf next] else [char, next]) 2
        target) source char (next :: rest) := by
  refine Loop.passesOver_goOn opens ?_ (quiet_paintedSign hidden _) line loop
  cases hides : mask.hides paint <;> simp [paintedSign, paintedIn, shown_of_paint, hides]

/-! ### The rounds by region -/

/-- In a comment up to the end of its line, the loop takes one character as the walk does. -/
theorem Loop.inLineComment_passesOver (mask : Mask) (line : Nat) (loop : Loop) (char : Char)
    (following : Text) :
    loop.PassesOver mask line (loop.inLineComment mask char) .lineComment char following := by
  rw [inLineComment]
  by_cases newline : char = '\n'
  · subst newline
    have opens : sign .lineComment '\n' following = ⟨.code, 0, .plain⟩ := rfl
    refine Loop.passesOver_goOn opens rfl ?_ line loop
    intro cell member
    obtain rfl := List.mem_singleton.mp member
    exact ⟨rfl, rfl⟩
  · have opens : sign .lineComment char following = ⟨.lineComment, 0, .comment⟩ :=
      if_neg newline
    rw [if_neg newline]
    exact Loop.passesOver_one opens (by decide) line loop

/-- In a comment between marks, the loop takes one character or the mark at the end. -/
theorem Loop.inBlockComment_passesOver (mask : Mask) (line : Nat) (loop : Loop) (char : Char)
    (following : Text) :
    loop.PassesOver mask line (loop.inBlockComment mask char following) .blockComment char
      following := by
  have seen : sign .blockComment char following = _ := blockCommentSign_eq char following
  rw [lookahead_fst] at seen
  by_cases closing : char = '*' ∧ following.head? = some '/'
  · rw [if_pos closing] at seen
    obtain ⟨rfl, next⟩ := closing
    obtain ⟨rest, rfl⟩ := List.head?_eq_some_iff.mp next
    exact Loop.passesOver_two seen (by decide) line loop
  · rw [if_neg closing] at seen
    rw [inBlockComment, if_neg (by simpa using closing)]
    exact Loop.passesOver_one seen (by decide) line loop

theorem isPrefixOf_tripleQuote (char : Char) (following : Text) :
    tripleQuote.isPrefixOf (char :: following) = true ↔
      char = '"' ∧ (lookahead following).2 = true := by
  match following with
  | [] => simp [tripleQuote, lookahead, List.isPrefixOf]
  | [_] => simp [tripleQuote, lookahead, List.isPrefixOf]
  | first :: second :: _ =>
    simp only [tripleQuote, lookahead, List.isPrefixOf, Bool.and_true, Bool.and_eq_true, beq_iff_eq,
      decide_eq_true_eq, eq_comm (a := '"')]

theorem quiet_tripleQuote (source target : Region) :
    ∀ cell ∈ paintedSign source target .plain tripleQuote, cell.Quiet := by
  intro cell member
  have quote : cell.char = '"' := by
    simp only [tripleQuote, paintedSign, paintedIn, List.map_cons, List.map_nil, List.mem_cons,
      List.not_mem_nil, or_false] at member
    obtain rfl | rfl | rfl := member <;> rfl
  exact Cell.quiet_of_char (by rw [quote]; rfl) (by rw [quote]; decide)

/-- The loop passes over the mark of a text block. -/
theorem Loop.passesOver_tripleQuote {mask : Mask} {source target : Region} {rest : Text}
    (opens : sign source '"' ('"' :: '"' :: rest) = ⟨target, 2, .plain⟩) (line : Nat)
    (loop : Loop) :
    loop.PassesOver mask line (loop.goOn tripleQuote 3 target) source '"' ('"' :: '"' :: rest) :=
  Loop.passesOver_goOn opens rfl (quiet_tripleQuote source target) line loop

/-- A backslash takes the next character with it, if there is one. -/
theorem escapes_or_not (char : Char) (following : Text) :
    (∃ next rest, char = '\\' ∧ following = next :: rest) ∨
      ¬ (char = '\\' ∧ (lookahead following).1 ≠ none) := by
  by_cases escapes : char = '\\' ∧ (lookahead following).1 ≠ none
  · obtain ⟨backslash, more⟩ := escapes
    rw [ne_eq, lookahead_fst_eq_none_iff] at more
    obtain ⟨next, rest, equal⟩ := List.exists_cons_of_ne_nil more
    exact .inl ⟨next, rest, backslash, equal⟩
  · exact .inr escapes

theorem Loop.inTextBlock_of_not_escape {mask : Mask} {loop : Loop} {char : Char}
    {following : Text} (opens : ¬ (char = '"' ∧ (lookahead following).2 = true))
    (escapes : ¬ (char = '\\' ∧ (lookahead following).1 ≠ none)) :
    loop.inTextBlock mask char following = loop.overContents mask char .textBlock := by
  unfold inTextBlock
  rw [if_neg fun mark => opens ((isPrefixOf_tripleQuote _ _).mp mark)]
  split
  · exact absurd ⟨rfl, by simp [lookahead_fst]⟩ escapes
  · rfl

/-- In a text block, the loop takes one character, an escape of two, or the three quotes at the end.
-/
theorem Loop.inTextBlock_passesOver (mask : Mask) (line : Nat) (loop : Loop) (char : Char)
    (following : Text) :
    loop.PassesOver mask line (loop.inTextBlock mask char following) .textBlock char
      following := by
  have seen : sign .textBlock char following = _ := textBlockSign_eq char following
  by_cases closing : char = '"' ∧ (lookahead following).2 = true
  · obtain ⟨rfl, quotes⟩ := closing
    obtain ⟨rest, rfl⟩ := eq_quotes_of_lookahead quotes
    exact Loop.passesOver_tripleQuote rfl line loop
  rw [if_neg closing] at seen
  obtain ⟨next, rest, rfl, rfl⟩ | escapes := escapes_or_not char following
  · have opens : sign .textBlock '\\' (next :: rest) = ⟨.textBlock, 1, .literal⟩ := rfl
    exact Loop.passesOver_two opens (by decide) line loop
  · rw [if_neg escapes] at seen
    rw [Loop.inTextBlock_of_not_escape closing escapes]
    exact Loop.passesOver_one seen (by decide) line loop

/-- A round over a plain character that is quiet. -/
theorem Loop.passesOver_plain {mask : Mask} {source target : Region} {char : Char}
    {following : Text} (opens : sign source char following = ⟨target, 0, .plain⟩)
    (quiet : Cell.Quiet ⟨char, source, .plain⟩) (line : Nat) (loop : Loop) :
    loop.PassesOver mask line (loop.goOn [char] 1 target) source char following := by
  refine Loop.passesOver_goOn opens rfl ?_ line loop
  intro cell member
  obtain rfl := List.mem_singleton.mp member
  exact quiet

/-- A region of literals that end at a quote or, cut off, at a newline. -/
structure Quotes (region : Region) (quote : Char) : Prop where
  sign : ∀ char following, sign region char following = quotedSign region quote char following
  cutsOff : Cell.cutsOff ⟨'\n', region, .plain⟩ = true
  weightless : weight quote = 0
  notNewline : quote ≠ '\n'

theorem quotes_string : Quotes .string '"' :=
  ⟨fun _ _ => rfl, rfl, rfl, by decide⟩

theorem quotes_char : Quotes .char '\'' :=
  ⟨fun _ _ => rfl, rfl, rfl, by decide⟩

theorem Loop.inQuoted_of_not_escape {mask : Mask} {code : Text} {loop : Loop} {region : Region}
    {quote char : Char} {following : Text}
    (escapes : ¬ (char = '\\' ∧ (lookahead following).1 ≠ none)) :
    loop.inQuoted mask code region quote char following =
      if char = quote then loop.goOn [char] 1 .code
      else if char = '\n' then
        { loop with
          cutOff := loop.cutOff ++ [(region, (code.take loop.position).count '\n' + 1)] }.goOn
            [char] 1 .code
      else loop.overContents mask char region := by
  unfold inQuoted
  split
  · exact absurd ⟨rfl, by simp [lookahead_fst]⟩ escapes
  · rfl

/-- A literal is cut off in the line in which the loop meets the newline. -/
theorem Loop.finds_cutOff {region : Region} {quote : Char} (quotes : Quotes region quote)
    (mask : Mask) (line : Nat) (loop : Loop) :
    loop.Finds mask line
      ({ loop with cutOff := loop.cutOff ++ [(region, line)] }.goOn ['\n'] 1 .code)
      [⟨'\n', region, .plain⟩] where
  masked := masked_goOn _ _ _ _
  depth := (Int.add_zero _).symm
  lowest := by
    intro below
    show loop.lowest = min _ (_ + min 0 (0 + 0))
    omega
  cutOff := by
    rw [cutOffFrom, if_pos quotes.cutsOff]
    rfl

/-- In a quoted literal, the loop takes one character or an escape of two. A newline cuts the
literal off on the line that was counted so far. -/
theorem Loop.inQuoted_passesOver {region : Region} {quote : Char} (quotes : Quotes region quote)
    (mask : Mask) (code : Text) (loop : Loop) (char : Char) (following : Text) :
    loop.PassesOver mask ((code.take loop.position).count '\n' + 1)
      (loop.inQuoted mask code region quote char following) region char following := by
  have seen := quotes.sign char following
  rw [quotedSign_eq] at seen
  obtain ⟨next, rest, rfl, rfl⟩ | escapes := escapes_or_not char following
  · have opens : sign region '\\' (next :: rest) = ⟨region, 1, .literal⟩ := quotes.sign _ _
    exact Loop.passesOver_two opens (by decide) _ loop
  rw [if_neg escapes] at seen
  rw [Loop.inQuoted_of_not_escape escapes]
  by_cases closing : char = quote
  · rw [if_pos (.inl closing)] at seen
    rw [if_pos closing]
    subst closing
    exact Loop.passesOver_plain seen (Cell.quiet_of_char quotes.weightless quotes.notNewline) _
      loop
  rw [if_neg closing]
  by_cases newline : char = '\n'
  · rw [if_pos (.inr newline)] at seen
    rw [if_pos newline]
    subst newline
    refine ⟨by rw [seen]; rfl, by rw [seen]; rfl, ?_⟩
    rw [signCells, seen]
    exact Loop.finds_cutOff quotes mask _ loop
  · rw [if_neg (not_or_intro closing newline)] at seen
    rw [if_neg newline]
    exact Loop.passesOver_one seen (by decide) _ loop

/-! ### A round in code -/

theorem Loop.finds_opening (mask : Mask) (line : Nat) (loop : Loop) :
    loop.Finds mask line ({ loop with depth := loop.depth + 1 }.goOn ['\x7b'] 1 .code)
      [⟨'\x7b', .code, .plain⟩] where
  masked := masked_goOn _ _ _ _
  depth := rfl
  lowest := by
    intro below
    show loop.lowest = min _ (_ + min 0 (1 + 0))
    omega
  cutOff := (List.append_nil _).symm

theorem Loop.finds_closing (mask : Mask) (line : Nat) (loop : Loop) :
    loop.Finds mask line
      ({ loop with depth := loop.depth - 1, lowest := min loop.lowest (loop.depth - 1) }.goOn
        ['\x7d'] 1 .code)
      [⟨'\x7d', .code, .plain⟩] where
  masked := masked_goOn _ _ _ _
  depth := rfl
  lowest := by
    intro below
    show min loop.lowest (loop.depth - 1) = min _ (_ + min 0 (-1 + 0))
    omega
  cutOff := (List.append_nil _).symm

/-- In code, the loop takes a brace, the beginning of a literal or a comment, or any other
character. -/
theorem Loop.inCode_passesOver (mask : Mask) (line : Nat) (loop : Loop) (char : Char)
    (following : Text) :
    loop.PassesOver mask line (loop.inCode mask char following) .code char following := by
  have seen : sign .code char following = _ := codeSign_eq char following
  rw [lookahead_fst] at seen
  by_cases lineMark : char = '/' ∧ following.head? = some '/'
  · obtain ⟨rfl, next⟩ := lineMark
    obtain ⟨rest, rfl⟩ := List.head?_eq_some_iff.mp next
    have opens : sign .code '/' ('/' :: rest) = ⟨.lineComment, 1, .comment⟩ := rfl
    exact Loop.passesOver_two opens (by decide) line loop
  by_cases blockMark : char = '/' ∧ following.head? = some '*'
  · obtain ⟨rfl, next⟩ := blockMark
    obtain ⟨rest, rfl⟩ := List.head?_eq_some_iff.mp next
    have opens : sign .code '/' ('*' :: rest) = ⟨.blockComment, 1, .comment⟩ := rfl
    exact Loop.passesOver_two opens (by decide) line loop
  by_cases textMark : char = '"' ∧ (lookahead following).2 = true
  · obtain ⟨rfl, quotes⟩ := textMark
    obtain ⟨rest, rfl⟩ := eq_quotes_of_lookahead quotes
    exact Loop.passesOver_tripleQuote rfl line loop
  rw [if_neg lineMark, if_neg blockMark, if_neg textMark] at seen
  rw [inCode, if_neg (by simpa using lineMark), if_neg (by simpa using blockMark),
    if_neg fun mark => textMark ((isPrefixOf_tripleQuote _ _).mp mark)]
  split_ifs with string apostrophe opening closing
  · rw [if_pos string] at seen
    exact Loop.passesOver_plain seen (string ▸ ⟨rfl, rfl⟩) line loop
  · rw [if_neg string, if_pos apostrophe] at seen
    exact Loop.passesOver_plain seen (apostrophe ▸ ⟨rfl, rfl⟩) line loop
  all_goals rw [if_neg string, if_neg apostrophe] at seen
  · refine ⟨by rw [seen]; rfl, by rw [seen]; rfl, ?_⟩
    rw [signCells, seen, opening]
    exact Loop.finds_opening mask line loop
  · refine ⟨by rw [seen]; rfl, by rw [seen]; rfl, ?_⟩
    rw [signCells, seen, closing]
    exact Loop.finds_closing mask line loop
  · have weightless : Java.weight char = 0 := by rw [weight, if_neg opening, if_neg closing]
    have quiet : Cell.Quiet ⟨char, .code, .plain⟩ :=
      ⟨weightless, by simp [Cell.cutsOff]⟩
    exact Loop.passesOver_plain seen quiet line loop

/-- One round passes over one sign. -/
theorem Loop.round_passesOver (mask : Mask) (code : Text) (loop : Loop) (char : Char)
    (following : Text) :
    loop.PassesOver mask ((code.take loop.position).count '\n' + 1)
      (loop.round mask code char following) loop.region char following := by
  rw [round]
  cases loop.region with
  | code => exact loop.inCode_passesOver mask _ char following
  | string => exact loop.inQuoted_passesOver quotes_string mask code char following
  | char => exact loop.inQuoted_passesOver quotes_char mask code char following
  | textBlock => exact loop.inTextBlock_passesOver mask _ char following
  | lineComment => exact loop.inLineComment_passesOver mask _ char following
  | blockComment => exact loop.inBlockComment_passesOver mask _ char following

/-! ### The whole loop -/

/-- What is still owed of a sign is painted as the sign. -/
theorem cellsFrom_owed (region : Region) (owed : Nat) (paint : Paint) (text : Text) :
    cellsFrom ⟨region, owed, paint⟩ text =
      paintedIn region paint (text.take owed) ++ cellsFrom ⟨region, 0, paint⟩ (text.drop owed) := by
  induction owed generalizing text with
  | zero => rfl
  | succ owed inductionHypothesis =>
    cases text with
    | nil => rfl
    | cons char text => exact congrArg (List.cons _) (inductionHypothesis text)

theorem walkFrom_owed (region : Region) (owed : Nat) (paint : Paint) (text : Text) :
    (walkFrom ⟨region, owed, paint⟩ text).region =
      (walkFrom ⟨region, 0, paint⟩ (text.drop owed)).region := by
  induction owed generalizing text with
  | zero => rfl
  | succ owed inductionHypothesis =>
    cases text with
    | nil => rfl
    | cons char text => exact inductionHypothesis text

/-- Up to its own position the loop passes over the characters without a round. -/
theorem Loop.runFrom_of_ahead {mask : Mask} {code : Text} {loop : Loop} {position ahead : Nat}
    (further : loop.position = position + ahead) (text : Text) :
    loop.runFrom mask code position text =
      loop.runFrom mask code (position + ahead) (text.drop ahead) := by
  induction ahead generalizing position text with
  | zero => rfl
  | succ ahead inductionHypothesis =>
    cases text with
    | nil => rfl
    | cons char text =>
      rw [runFrom, if_pos (by omega), inductionHypothesis (by omega), List.drop_succ_cons]
      congr 1
      omega

theorem map_char_paintedSign (source target : Region) (paint : Paint) (text : Text) :
    (paintedSign source target paint text).map Cell.char = text := by
  cases text with
  | nil => rfl
  | cons char more =>
    show char :: (more.map _).map Cell.char = char :: more
    rw [List.map_map]
    exact congrArg (List.cons char) (List.map_id more)

/-- The painted characters from between two signs are those of the sign ahead and, from behind it,
of the rest. -/
theorem cellsFrom_sign (region : Region) (paint : Paint) (char : Char) (following : Text) :
    cellsFrom ⟨region, 0, paint⟩ (char :: following) =
      signCells region char following ++
        cellsFrom
          ⟨(sign region char following).region, 0, (sign region char following).paint⟩
          (following.drop (sign region char following).owed) :=
  congrArg (List.cons _) (cellsFrom_owed _ _ _ following)

/-- From between two signs the loop runs to the end and finds what is painted on the rest. -/
theorem Loop.runFrom_finds (mask : Mask) {code text : Text} {loop : Loop}
    (rest : code.drop loop.position = text) (paint : Paint) :
    (loop.runFrom mask code loop.position text).region =
        (walkFrom ⟨loop.region, 0, paint⟩ text).region ∧
      loop.Finds mask ((code.take loop.position).count '\n' + 1)
        (loop.runFrom mask code loop.position text) (cellsFrom ⟨loop.region, 0, paint⟩ text) := by
  match text with
  | [] => exact ⟨rfl, loop.finds_nil mask _⟩
  | char :: following =>
    -- The rest behind a sign and what it owes is no tail of the pattern, so the recursion is on the
    -- length.
    have passes := loop.round_passesOver mask code char following
    have walked : following.drop (sign loop.region char following).owed =
        code.drop (loop.round mask code char following).position := by
      rw [passes.position, ← List.drop_drop, rest, List.drop_succ_cons]
    have lines : (code.take (loop.round mask code char following).position).count '\n' + 1 =
        (code.take loop.position).count '\n' + 1 +
          ((signCells loop.region char following).map Cell.char).count '\n' := by
      rw [passes.position, List.take_add, rest, List.count_append, signCells,
        map_char_paintedSign, List.take_succ_cons]
      omega
    have ahead : (loop.round mask code char following).position =
        loop.position + 1 + (sign loop.region char following).owed := by
      rw [passes.position, Nat.add_right_comm, Nat.add_assoc]
    obtain ⟨region, finds⟩ :=
      Loop.runFrom_finds mask walked.symm (sign loop.region char following).paint
    rw [lines, passes.region] at finds
    rw [passes.region] at region
    rw [runFrom, if_neg (Nat.lt_irrefl _), Loop.runFrom_of_ahead ahead, ← ahead, cellsFrom_sign]
    refine ⟨?_, passes.finds.append finds⟩
    rw [region, ← walkFrom_owed]
    rfl
termination_by text.length
decreasing_by
  rw [List.length_drop, List.length_cons]
  omega

/-! ### What a walk over a whole text finds -/

/-- What is found out about a text is read off its painted characters. -/
theorem scan_eq (mask : Mask) (text : Text) :
    scan mask text =
      { depth := depthAfter ((cells text).map Cell.weight)
        lowest := lowestDepth ((cells text).map Cell.weight)
        openRegion := (walkFrom .start text).region.atEnd
        masked := (cells text).map (Cell.shown mask)
        cutOff := cutOffFrom 1 (cells text) } := by
  have fromStart : text.drop Loop.start.position = text := rfl
  obtain ⟨region, finds⟩ := Loop.runFrom_finds mask fromStart .plain
  have depth := finds.depth
  have lowest := finds.lowest le_rfl
  rw [show Loop.start.depth = 0 from rfl, Int.zero_add] at depth
  rw [show Loop.start.lowest = 0 from rfl, show Loop.start.depth = 0 from rfl, Int.zero_add,
    min_eq_right (lowestDepth_nonpos _)] at lowest
  show Loop.finish _ = _
  rw [Loop.finish]
  congr 1
  · exact congrArg Region.atEnd region
  · exact finds.masked
  · exact finds.cutOff

/-- What is masked makes no difference to anything but the masked text. -/
theorem scan_eq_of_other_mask (mask other : Mask) (text : Text) :
    scan mask text = { scan other text with masked := masked mask text } := by
  rw [masked, scan_eq mask, scan_eq other]

theorem openRegion_scan (mask : Mask) (text : Text) :
    (scan mask text).openRegion = (walkFrom .start text).region.atEnd := by
  rw [scan_eq]

theorem cutOff_scan (mask : Mask) (text : Text) :
    (scan mask text).cutOff = cutOffFrom 1 (cells text) := by
  rw [scan_eq]

/-- The masked text shows the painted characters. -/
theorem masked_eq (mask : Mask) (text : Text) :
    masked mask text = (cells text).map (Cell.shown mask) :=
  congrArg Scan.masked (scan_eq mask text)

end BrowserPlan.Java
