/-
This file proves which blocks are taken from a text in which prose and blocks with labels alternate.

A text is given by its pieces, and there is no backquote in a label or in what a piece holds. So the
search can only stop at the fences, and a fence is passed over unless `java` stands right behind it.
The word need not end there: a block is taken whenever its label opens with `java`, and what is left
of the label is taken for the start of its content.
-/

import BrowserPlan.Proofs.Report.Fence
import BrowserPlan.Proofs.Text.Lines

namespace BrowserPlan.Report

/-! ### Texts with labelled blocks -/

/-- A text without backquotes. -/
abbrev PlainText := { text : Text // '\x60' ∉ text }

/-- What may stand between two lines. -/
abbrev LineEnd := { text : Text // text ≠ [] ∧ text.all Text.isLineBreak = true }

/-- Prose, or the lines of a block with the label behind its opening fence. -/
inductive Piece where
  | prose (text : PlainText)
  | block (label : PlainText) (content : List PlainText)

/-- The lines of a piece. -/
def Piece.lines : Piece → List Text
  | .prose text => [text]
  | .block label content => (fence ++ label.val) :: (content.map Subtype.val ++ [fence])

/-- The text with the given pieces. -/
def written (lineEnd : LineEnd) (pieces : List Piece) : Text :=
  Text.join lineEnd.val (pieces.flatMap Piece.lines)

/-- The trimmed content of a block that is labelled `java`. -/
def Piece.code? (lineEnd : LineEnd) : Piece → Option Text
  | .prose _ => none
  | .block label content =>
      if label.val = "java" then some (Text.trim (Text.join lineEnd.val (content.map Subtype.val)))
      else none

/-- What is taken from a block: its label has to open with `java`, and the rest of it is taken as a
first line of the content. -/
def Piece.taken? (lineEnd : LineEnd) : Piece → Option Text
  | .prose _ => none
  | .block label content =>
      (Text.after? "java" label.val).map fun rest =>
        Text.trim (Text.join lineEnd.val (rest :: content.map Subtype.val))

/-! ### Lines behind each other -/

section Lines

variable (lineEnd : LineEnd)

/-- Lines with a line end in front of each. -/
def behind (lines : List Text) : Text :=
  lines.flatMap (lineEnd.val ++ ·)

theorem join_cons (line : Text) (lines : List Text) :
    Text.join lineEnd.val (line :: lines) = line ++ behind lineEnd lines := by
  induction lines generalizing line with
  | nil => exact (List.intercalate_singleton ..).trans (List.append_nil line).symm
  | cons next lines inductionHypothesis =>
    rw [Text.join, List.intercalate_cons_cons, ← Text.join, inductionHypothesis, behind, behind,
      List.flatMap_cons, List.append_assoc, List.append_assoc]

theorem behind_eq {lines : List Text} (notEmpty : lines ≠ []) :
    behind lineEnd lines = lineEnd.val ++ Text.join lineEnd.val lines := by
  obtain ⟨line, lines, rfl⟩ := List.exists_cons_of_ne_nil notEmpty
  rw [join_cons, behind, List.flatMap_cons, ← behind, List.append_assoc]

theorem behind_append (front back : List Text) :
    behind lineEnd (front ++ back) = behind lineEnd front ++ behind lineEnd back :=
  List.flatMap_append

theorem isLineBreak_of_mem_lineEnd {char : Char} (member : char ∈ lineEnd.val) :
    Text.isLineBreak char = true :=
  List.all_eq_true.mp lineEnd.property.2 char member

theorem notMem_lineEnd : '\x60' ∉ lineEnd.val := fun member =>
  absurd (isLineBreak_of_mem_lineEnd lineEnd member) (by decide)

theorem isAllBlank_lineEnd : Text.isAllBlank lineEnd.val = true :=
  List.all_eq_true.mpr fun _ member =>
    Text.isBlank_of_isLineBreak (isLineBreak_of_mem_lineEnd lineEnd member)

theorem notMem_behind (content : List PlainText) :
    '\x60' ∉ behind lineEnd (content.map Subtype.val) := by
  intro member
  obtain ⟨line, isLine, inside⟩ := List.mem_flatMap.mp member
  obtain ⟨plain, _, rfl⟩ := List.mem_map.mp isLine
  exact (List.mem_append.mp inside).elim (notMem_lineEnd lineEnd) plain.property

theorem trim_behind (lines : List Text) :
    Text.trim (behind lineEnd lines) = Text.trim (Text.join lineEnd.val lines) := by
  by_cases nothing : lines = []
  · rw [nothing]
    rfl
  · rw [behind_eq lineEnd nothing, ← Text.trim_dropBlanks,
      Text.dropBlanks_append (isAllBlank_lineEnd lineEnd), Text.trim_dropBlanks]

/-- Whether the text could follow a whole line: it is empty or goes on with a line break. -/
def FollowsLine (text : Text) : Prop :=
  ∀ char ∈ text.head?, Text.isLineBreak char = true

theorem followsLine_behind_append (lines : List Text) {rest : Text} (follows : FollowsLine rest) :
    FollowsLine (behind lineEnd lines ++ rest) := by
  cases lines with
  | nil => exact follows
  | cons line lines =>
    intro char first
    rw [behind, List.flatMap_cons, List.append_assoc, List.append_assoc,
      List.head?_append_of_ne_nil _ lineEnd.property.1] at first
    exact isLineBreak_of_mem_lineEnd lineEnd (List.mem_of_head? first)

theorem followsLine_behind (lines : List Text) : FollowsLine (behind lineEnd lines) := by
  rw [← List.append_nil (behind lineEnd lines)]
  exact followsLine_behind_append lineEnd lines nofun

end Lines

/-! ### The search -/

theorem blocks_cons_of_miss {char : Char} {text : Text} (other : ¬ opening <+: char :: text) :
    blocks (char :: text) = blocks text := by
  have miss : readBlock (char :: text) = none := by
    rw [readBlock, ← opening, Text.after?_eq_none other]
    rfl
  rw [blocks, Text.findAll, Text.findFrom_miss miss]
  exact Text.map_snd_findFrom readBlock _ _ _ _ _ _

theorem blocks_append_of_read {passed rest code : Text} (notEmpty : passed ≠ [])
    (read : readBlock (passed ++ rest) = some (code, rest)) :
    blocks (passed ++ rest) = code :: blocks rest := by
  rw [blocks, Text.findAll, Text.findFrom_hit notEmpty read, List.map_cons]
  exact congrArg (code :: ·) (Text.map_snd_findFrom readBlock _ _ _ _ _ _)

theorem blocks_append_of_notMem {front : Text} (plain : '\x60' ∉ front) (rest : Text) :
    blocks (front ++ rest) = blocks rest := by
  induction front with
  | nil => rfl
  | cons char front inductionHypothesis =>
    obtain ⟨other, plain⟩ := not_or.mp (mt List.mem_cons.mpr plain)
    rw [List.cons_append, blocks_cons_of_miss fun opens => other (List.cons_prefix_cons.mp opens).1,
      inductionHypothesis plain]

/-- A fence is passed over if it is none that opens a block to take. -/
theorem blocks_fence_append {text : Text} (notLabelled : ¬ "java".toList <+: text)
    (notLonger : text.head? ≠ some '\x60') : blocks (fence ++ text) = blocks text := by
  have parts : opening = '\x60' :: '\x60' :: '\x60' :: "java".toList := rfl
  have second : ¬ opening <+: '\x60' :: '\x60' :: text := by
    rw [parts, List.cons_prefix_cons, List.cons_prefix_cons]
    rintro ⟨_, _, rest, rfl⟩
    exact notLonger rfl
  have third : ¬ opening <+: '\x60' :: text := by
    rw [parts, List.cons_prefix_cons]
    rintro ⟨_, rest, rfl⟩
    exact notLonger rfl
  have first : ¬ opening <+: '\x60' :: '\x60' :: '\x60' :: text := fun opens =>
    notLabelled ((List.prefix_append_right_inj fence).mp opens)
  show blocks ('\x60' :: '\x60' :: '\x60' :: text) = blocks text
  rw [blocks_cons_of_miss first, blocks_cons_of_miss second, blocks_cons_of_miss third]

/-! ### From piece to piece -/

section Pieces

variable {lineEnd : LineEnd} {label rest : Text}

/-- A label does not open with a word because of what follows its line. -/
theorem prefix_of_prefix_append (follows : FollowsLine rest)
    (opens : "java".toList <+: label ++ rest) : "java".toList <+: label := by
  cases rest with
  | nil => rwa [List.append_nil] at opens
  | cons char rest =>
    have unbroken : "java".toList.any Text.isLineBreak = false := by decide
    refine Text.prefix_of_prefix_append_cons (fun member => ?_) opens
    exact List.any_eq_false.mp unbroken char member (follows char rfl)

/-- A fence is passed over with its label if this does not open with `java`. -/
theorem blocks_label_append (plain : '\x60' ∉ label) (other : ¬ "java".toList <+: label)
    (follows : FollowsLine rest) : blocks (fence ++ (label ++ rest)) = blocks rest := by
  have notLonger : (label ++ rest).head? ≠ some '\x60' := by
    intro first
    cases label with
    | nil => exact absurd (follows _ first) (by decide)
    | cons char label =>
      obtain rfl : char = '\x60' := Option.some.inj first
      exact plain List.mem_cons_self
  rw [blocks_fence_append (fun opens => other (prefix_of_prefix_append follows opens)) notLonger,
    blocks_append_of_notMem plain]

/-- A block is taken up to the next fence. -/
theorem blocks_opening_append {inside : Text} (plain : '\x60' ∉ inside) (rest : Text) :
    blocks (opening ++ (inside ++ (fence ++ rest))) = Text.trim inside :: blocks rest := by
  have apart : Text.isApart fence inside = true := Text.isApart_of_head_not_mem plain _
  have closes : Text.find? fence (inside ++ (fence ++ rest)) = some inside.length := by
    rw [Text.find?_append_of_isApart apart, Text.find?_append_self, Option.map_some, Nat.zero_add]
  have read : readBlock (opening ++ (inside ++ (fence ++ rest))) =
      some (Text.trim inside, rest) := by
    rw [readBlock, ← opening, Text.after?_append]
    dsimp only [Option.bind_eq_bind, Option.bind_some]
    rw [Text.upTo_eq_some_iff.mpr ⟨rfl, closes⟩]
    rfl
  have parts : opening ++ (inside ++ (fence ++ rest)) = (opening ++ (inside ++ fence)) ++ rest := by
    simp only [List.append_assoc]
  rw [parts] at read ⊢
  exact blocks_append_of_read (List.append_ne_nil_of_left_ne_nil (List.cons_ne_nil _ _) _) read

/-- A written block is taken as its label says. -/
theorem blocks_block_append (label : PlainText) (content : List PlainText)
    (follows : FollowsLine rest) :
    blocks (behind lineEnd (Piece.block label content).lines ++ rest) =
      ((Piece.block label content).taken? lineEnd).toList ++ blocks rest := by
  let inside := behind lineEnd (content.map Subtype.val) ++ lineEnd.val
  have plain : '\x60' ∉ inside := List.not_mem_append (notMem_behind lineEnd content)
    (notMem_lineEnd lineEnd)
  have parts : behind lineEnd (Piece.block label content).lines ++ rest =
      lineEnd.val ++ (fence ++ (label.val ++ (inside ++ (fence ++ rest)))) := by
    simp only [Piece.lines, behind, inside, List.flatMap_cons, List.flatMap_append,
      List.flatMap_nil, List.append_assoc, List.nil_append]
  rw [parts, blocks_append_of_notMem (notMem_lineEnd lineEnd), Piece.taken?]
  cases opens : Text.after? "java" label.val with
  | none =>
    have other : ¬ "java".toList <+: label.val := by
      rw [← Text.opensWith_iff, Text.opensWith, opens]
      exact Bool.false_ne_true
    have further : FollowsLine (inside ++ (fence ++ rest)) := by
      simpa only [behind, inside, List.flatMap_append, List.flatMap_singleton, List.append_assoc]
        using followsLine_behind_append lineEnd (content.map Subtype.val ++ [fence]) follows
    rw [blocks_label_append label.property other further, blocks_append_of_notMem plain]
    exact blocks_label_append List.not_mem_nil (by decide) follows
  | some unread =>
    have whole : label.val = "java" ++ unread := Text.after?_eq_some_iff.mp opens
    have plainUnread : '\x60' ∉ unread := fun member =>
      label.property (by rw [whole]; exact List.mem_append_right _ member)
    have taken : fence ++ (label.val ++ (inside ++ (fence ++ rest))) =
        opening ++ ((unread ++ inside) ++ (fence ++ rest)) := by
      rw [whole, opening]
      simp only [List.append_assoc]
    rw [taken, blocks_opening_append (List.not_mem_append plainUnread plain), Option.map_some,
      join_cons, ← List.append_assoc, Text.trim_append_of_blank (isAllBlank_lineEnd lineEnd)]
    rfl

/-- The blocks that are taken are those of the pieces. -/
theorem blocks_behind (pieces : List Piece) :
    blocks (behind lineEnd (pieces.flatMap Piece.lines)) =
      pieces.filterMap (Piece.taken? lineEnd) := by
  induction pieces with
  | nil => rfl
  | cons piece pieces inductionHypothesis =>
    rw [List.flatMap_cons, behind_append, List.filterMap_cons, ← inductionHypothesis]
    cases piece with
    | prose text =>
      exact blocks_append_of_notMem (notMem_behind lineEnd [text]) _
    | block label content =>
      rw [blocks_block_append label content (followsLine_behind lineEnd _)]
      cases (Piece.block label content).taken? lineEnd <;> rfl

/-- What is taken from a text are the blocks whose labels open with `java`. -/
theorem blocks_written (pieces : List Piece) :
    blocks (written lineEnd pieces) = pieces.filterMap (Piece.taken? lineEnd) := by
  rw [← blocks_behind, written]
  by_cases nothing : pieces.flatMap Piece.lines = []
  · rw [nothing]
    rfl
  · rw [behind_eq lineEnd nothing, blocks_append_of_notMem (notMem_lineEnd lineEnd)]

end Pieces

/-! ### The blocks labelled `java` -/

section Codes

variable {lineEnd : LineEnd}

theorem taken?_of_code? {piece : Piece} {code : Text} (labelled : piece.code? lineEnd = some code) :
    piece.taken? lineEnd = some code := by
  cases piece with
  | prose text => cases labelled
  | block label content =>
    rw [Piece.code?] at labelled
    split_ifs at labelled with isJava
    rw [Piece.taken?, isJava, Text.after?_eq_some_iff.mpr (List.append_nil _).symm, Option.map_some,
      ← labelled, join_cons, List.nil_append, trim_behind]

/-- A block is taken rightly unless its label merely opens with the right one. -/
theorem taken?_eq_code?_iff {label : PlainText} {content : List PlainText} :
    (Piece.block label content).taken? lineEnd = (Piece.block label content).code? lineEnd ↔
      ("java".toList <+: label.val → label.val = "java") := by
  constructor
  · rintro equal ⟨rest, opens⟩
    rw [Piece.taken?, Text.after?_eq_some_iff.mpr opens.symm, Option.map_some, Piece.code?] at equal
    split_ifs at equal with isJava
    exact isJava
  · intro exactly
    by_cases opens : "java".toList <+: label.val
    · have labelled : (Piece.block label content).code? lineEnd = some _ := if_pos (exactly opens)
      rw [taken?_of_code? labelled, labelled]
    · rw [Piece.taken?, Text.after?_eq_none opens, Piece.code?, if_neg]
      · rfl
      · intro isJava
        exact opens (by rw [isJava])

theorem filterMap_code?_sublist (pieces : List Piece) :
    (pieces.filterMap (Piece.code? lineEnd)).Sublist
      (pieces.filterMap (Piece.taken? lineEnd)) := by
  induction pieces with
  | nil => exact List.Sublist.slnil
  | cons piece pieces inductionHypothesis =>
    rw [List.filterMap_cons, List.filterMap_cons]
    cases labelled : piece.code? lineEnd with
    | none =>
      cases piece.taken? lineEnd with
      | none => exact inductionHypothesis
      | some code => exact inductionHypothesis.cons code
    | some code =>
      rw [taken?_of_code? labelled]
      exact inductionHypothesis.cons_cons code

/-- All blocks together are taken rightly if each is. -/
theorem filterMap_taken?_eq_iff (pieces : List Piece) :
    pieces.filterMap (Piece.taken? lineEnd) = pieces.filterMap (Piece.code? lineEnd) ↔
      ∀ piece ∈ pieces, piece.taken? lineEnd = piece.code? lineEnd := by
  induction pieces with
  | nil => exact iff_of_true rfl nofun
  | cons piece pieces inductionHypothesis =>
    rw [List.forall_mem_cons, ← inductionHypothesis, List.filterMap_cons, List.filterMap_cons]
    cases labelled : piece.code? lineEnd with
    | none =>
      cases piece.taken? lineEnd with
      | none => simp only [true_and]
      | some code =>
        -- what is labelled is all taken, so a block more is not made up for later on
        refine iff_of_false (fun equal => ?_) fun both => Option.some_ne_none code both.1
        have equal : code :: pieces.filterMap (Piece.taken? lineEnd) =
          pieces.filterMap (Piece.code? lineEnd) := equal
        have sublist : (pieces.filterMap (Piece.code? lineEnd)).Sublist _ :=
          filterMap_code?_sublist pieces
        rw [← equal] at sublist
        exact absurd sublist.length_le (Nat.not_succ_le_self _)
    | some code =>
      rw [taken?_of_code? labelled]
      simp only [List.cons.injEq, true_and]

end Codes

/-! ### What is made of them -/

theorem length_behind_lt (lineEnd : LineEnd) {few many : List Text} (sublist : few.Sublist many)
    (other : few ≠ many) : (behind lineEnd few).length < (behind lineEnd many).length := by
  have step (line : Text) (lines : List Text) : (behind lineEnd (line :: lines)).length =
      lineEnd.val.length + line.length + (behind lineEnd lines).length := by
    rw [behind, List.flatMap_cons, List.length_append, List.length_append, ← behind]
  have positive : 0 < lineEnd.val.length := List.length_pos_iff.mpr lineEnd.property.1
  induction sublist with
  | slnil => exact absurd rfl other
  | @cons few many line sublist inductionHypothesis =>
    rw [step]
    by_cases equal : few = many
    · rw [equal]
      omega
    · have := inductionHypothesis equal
      omega
  | @cons_cons few many line sublist inductionHypothesis =>
    rw [step, step]
    have := inductionHypothesis fun equal => other (congrArg (line :: ·) equal)
    omega

/-- Parts that are left out are missed in what is joined. -/
theorem eq_of_join_eq (lineEnd : LineEnd) {few many : List Text} (sublist : few.Sublist many)
    (notEmpty : few ≠ []) (equal : Text.join lineEnd.val few = Text.join lineEnd.val many) :
    few = many := by
  by_contra other
  have moreNotEmpty : many ≠ [] := fun nothing =>
    notEmpty (List.sublist_nil.mp (nothing ▸ sublist))
  have shorter := length_behind_lt lineEnd sublist other
  rw [behind_eq lineEnd notEmpty, behind_eq lineEnd moreNotEmpty, equal] at shorter
  exact Nat.lt_irrefl _ shorter

/-- The first of some blocks as an implementation. -/
def firstOf : List Text → Except FormatError Implementation
  | [] => .error .noBlock
  | code :: _ => .ok { code, testCount := Java.testCount code }

/-- The given blocks are all that is taken from a text, and the first one is its implementation. -/
structure TakesExactly (codes : List Text) (text : Text) : Prop where
  joined : joinedBlocks? text = if codes = [] then none else some (Text.join "\n\n" codes)
  first : Implementation.ofSection text = firstOf codes

/-- A line end with an empty line behind it. -/
def emptyLine : LineEnd :=
  ⟨"\n\n".toList, by decide, by decide⟩

theorem joinedBlocks?_eq (text : Text) : joinedBlocks? text =
    if blocks text = [] then none else some (Text.join "\n\n" (blocks text)) := by
  unfold joinedBlocks?
  cases blocks text <;> rfl

/-- If the right blocks are taken in any case, they are the only ones just if there are no others.
-/
theorem takesExactly_iff {codes : List Text} {text : Text} (sublist : codes.Sublist (blocks text)) :
    TakesExactly codes text ↔ blocks text = codes := by
  constructor
  · intro exactly
    have joined := exactly.joined
    rw [joinedBlocks?_eq] at joined
    split_ifs at joined with noBlocks noCodes noCodes
    · rw [noBlocks, noCodes]
    · exact (eq_of_join_eq emptyLine sublist noCodes (Option.some.inj joined).symm).symm
  · intro equal
    refine ⟨by rw [joinedBlocks?_eq, equal], ?_⟩
    rw [← equal]
    rfl

/-- The blocks labelled `java` are all that is taken from a text exactly if none of its other labels
opens with that word. -/
theorem takesExactly_written_iff (lineEnd : LineEnd) (pieces : List Piece) :
    blocks (written lineEnd pieces) = pieces.filterMap (Piece.taken? lineEnd) ∧
      (TakesExactly (pieces.filterMap (Piece.code? lineEnd)) (written lineEnd pieces) ↔
        ∀ label content, Piece.block label content ∈ pieces →
          "java".toList <+: label.val → label.val = "java") := by
  refine ⟨blocks_written pieces, ?_⟩
  rw [takesExactly_iff (by rw [blocks_written]; exact filterMap_code?_sublist pieces),
    blocks_written, filterMap_taken?_eq_iff]
  constructor
  · intro same label content member
    exact taken?_eq_code?_iff.mp (same _ member)
  · intro exactly piece member
    cases piece with
    | prose text => rfl
    | block label content => exact taken?_eq_code?_iff.mpr (exactly label content member)

/-- A line end. -/
def newline : LineEnd :=
  ⟨"\n".toList, by decide, by decide⟩

/-- A block labelled `javascript` and the end of its last line. -/
def scriptPieces : List Piece :=
  [.block ⟨"javascript".toList, by decide⟩ [⟨"foo".toList, by decide⟩], .prose ⟨[], by decide⟩]

/-- A block labelled `javascript` is taken, and the rest of its label comes with it. -/
theorem javascript_label_taken :
    written newline scriptPieces = "```javascript\nfoo\n```\n" ∧
      scriptPieces.filterMap (Piece.code? newline) = [] ∧
      joinedBlocks? (written newline scriptPieces) = some "script\nfoo" ∧
      Implementation.ofSection (written newline scriptPieces) =
        .ok { code := "script\nfoo", testCount := 0 } ∧
      ¬ TakesExactly [] (written newline scriptPieces) :=
  ⟨by decide, by decide, by decide, by decide, fun exactly => absurd exactly.joined (by decide)⟩

end BrowserPlan.Report
