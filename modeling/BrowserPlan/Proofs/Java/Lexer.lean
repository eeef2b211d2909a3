/-
This file proves that the walk over Java text is a lexer: what it finds out about a text is what
the tokens of the text say.

The masked text and the literals that are cut off follow token by token, and so does the region
at the end. The depth needs no induction of its own. It is that of the text under the full mask,
where no brace is left but those that are tokens, and all other characters leave it as it is.
-/

import BrowserPlan.Proofs.Java.Brace
import BrowserPlan.Proofs.Java.Lexing

namespace BrowserPlan.Java

/-! ### What tokens show -/

theorem hideIf_append (hidden : Bool) (front back : Text) :
    hideIf hidden (front ++ back) = hideIf hidden front ++ hideIf hidden back := by
  cases hidden with
  | false => rfl
  | true => exact List.map_append

theorem shown_eq_hideIf (mask : Mask) (char : Char) (region : Region) (paint : Paint) :
    [Cell.shown mask ⟨char, region, paint⟩] = hideIf (mask.hides paint) [char] := by
  by_cases newline : char = '\n' <;> cases hidden : mask.hides paint <;>
    simp [Cell.shown, hideIf, blank, hidden, newline]

theorem shown_paintedIn (mask : Mask) (region : Region) (paint : Paint) (text : Text) :
    (paintedIn region paint text).map (Cell.shown mask) = hideIf (mask.hides paint) text := by
  induction text with
  | nil => cases mask.hides paint <;> rfl
  | cons char text inductionHypothesis =>
    rw [← List.singleton_append, hideIf_append, ← inductionHypothesis,
      ← shown_eq_hideIf mask char region paint]
    rfl

theorem shown_paintedSign (mask : Mask) (source target : Region) (paint : Paint) (text : Text) :
    (paintedSign source target paint text).map (Cell.shown mask) =
      hideIf (mask.hides paint) text := by
  cases text with
  | nil => cases mask.hides paint <;> rfl
  | cons char text =>
    rw [← List.singleton_append, hideIf_append, ← shown_eq_hideIf mask char source paint,
      ← shown_paintedIn mask target paint text]
    rfl

theorem Token.shown_cells (mask : Mask) (token : Token) :
    token.cells.map (Cell.shown mask) = token.masked mask := by
  cases token with
  | single char => rfl
  | lineComment contents =>
    rw [cells, List.map_append, shown_paintedSign, shown_paintedIn, ← hideIf_append]
    rfl
  | blockComment contents closed =>
    rw [cells, List.map_append, List.map_append, shown_paintedSign, shown_paintedIn,
      shown_paintedSign, ← hideIf_append, ← hideIf_append]
    rfl
  | textBlock contents closed =>
    rw [cells, List.map_append, List.map_append, shown_paintedSign, shown_paintedIn,
      shown_paintedSign]
    rfl
  | quoted quote contents ending =>
    rw [cells, List.map_append, List.map_append, shown_paintedSign, shown_paintedIn,
      shown_paintedSign]
    rfl

theorem Region.EndsWithLine.sign_newline {region : Region} (ends : region.EndsWithLine)
    (rest : Text) : sign region '\n' rest = .start := by
  obtain rfl | rfl | rfl := ends <;> rfl

/-- A newline that ends a region is plain, and code goes on behind it. -/
theorem Region.EndsWithLine.cellsFrom {region : Region} (ends : region.EndsWithLine)
    (paint : Paint) (rest : Text) :
    cellsFrom ⟨region, 0, paint⟩ ('\n' :: rest) = ⟨'\n', region, .plain⟩ :: cells rest := by
  rw [cellsFrom_cons, Cursor.step, ends.sign_newline]
  rfl

/-- What a mask shows of a text is what it shows of each token. -/
theorem Lexed.shown {region : Region} {text : Text} {tokens : List Token}
    (lexed : Lexed region text tokens) (mask : Mask) (paint : Paint) :
    (cellsFrom ⟨region, 0, paint⟩ text).map (Cell.shown mask) =
      tokens.flatMap (Token.masked mask) := by
  induction lexed generalizing paint with
  | done => rfl
  | token taken more inductionHypothesis =>
    obtain ⟨last, equal⟩ := taken.passes.cellsFrom paint
    rw [taken.text_eq, equal, List.map_append, Token.shown_cells, inductionHypothesis,
      List.flatMap_cons]
  | newline ends more inductionHypothesis =>
    rw [ends.cellsFrom, List.map_cons, cells, Cursor.start, inductionHypothesis]
    rfl

/-! ### The depth that tokens give -/

/-- Only braces count for the depth. -/
def isBrace (char : Char) : Bool :=
  weight char ≠ 0

theorem balance_filter (text : Text) : balance (text.filter isBrace) = balance text := by
  induction text with
  | nil => rfl
  | cons char text inductionHypothesis =>
    by_cases counts : isBrace char = true
    · rw [List.filter_cons_of_pos counts, balance_cons, balance_cons, inductionHypothesis]
    · have zero : weight char = 0 := by simpa [isBrace] using counts
      rw [List.filter_cons_of_neg counts, balance_cons, zero, inductionHypothesis, Int.zero_add]

/-- Only braces matter to the lowest depth. -/
theorem lowestDepth_filter (text : Text) :
    lowestDepth ((text.filter isBrace).map weight) = lowestDepth (text.map weight) := by
  induction text with
  | nil => rfl
  | cons char text inductionHypothesis =>
    by_cases counts : isBrace char = true
    · rw [List.filter_cons_of_pos counts, List.map_cons, List.map_cons, lowestDepth, lowestDepth,
        inductionHypothesis]
    · have zero : weight char = 0 := by simpa [isBrace] using counts
      rw [List.filter_cons_of_neg counts, List.map_cons, lowestDepth, zero, inductionHypothesis,
        Int.zero_add, min_eq_right (lowestDepth_nonpos _)]

/-- The lowest depth is the lowest over all front parts of the text. -/
theorem foldr_min_inits (bound depth : Int) (text : Text) :
    (text.inits.map fun part => depth + balance part).foldr min bound =
      min bound (depth + lowestDepth (text.map weight)) := by
  induction text generalizing depth with
  | nil => simp [balance_nil, lowestDepth, min_comm]
  | cons char text inductionHypothesis =>
    have later := inductionHypothesis (depth + weight char)
    rw [List.inits_cons, List.map_cons, List.foldr_cons, List.map_map, List.map_cons,
      lowestDepth]
    have shifted : (fun part => depth + balance part) ∘ (fun part => char :: part) =
        fun part => depth + weight char + balance part := by
      funext part
      exact (Int.add_assoc _ _ _).symm
    rw [shifted, later, balance_nil]
    omega

/-- The lowest depth is the least surplus of a front of the text, or zero. -/
theorem lowestDepth_eq_foldr (text : Text) :
    lowestDepth (text.map weight) = (text.inits.map surplus).foldr min 0 := by
  have fronts := foldr_min_inits 0 0 text
  simp only [Int.zero_add, balance_eq_count] at fronts
  rw [← min_eq_right (lowestDepth_nonpos (text.map weight))]
  exact fronts.symm

theorem filter_blank (text : Text) : (blank text).filter isBrace = [] := by
  rw [blank, List.filter_eq_nil_iff]
  intro char member
  obtain ⟨original, _, rfl⟩ := List.mem_map.mp member
  split_ifs with newline
  · rw [newline]
    decide
  · decide

/-- Under the full mask no token shows a brace but a brace. -/
theorem Token.filter_masked (token : Token) :
    (token.masked .full).filter isBrace = token.single?.toList.filter isBrace := by
  cases token with
  | single char => rfl
  | lineComment contents => exact filter_blank _
  | blockComment contents closed => exact filter_blank _
  | textBlock contents closed =>
    have hidden : (hideIf true contents).filter isBrace = [] := filter_blank contents
    have marks : (closing closed blockMark).filter isBrace = [] := by
      cases closed <;> rfl
    show (blockMark ++ (hideIf true contents ++ closing closed blockMark)).filter isBrace = []
    rw [List.filter_append, List.filter_append, hidden, marks]
    rfl
  | quoted quote contents ending =>
    have hidden : (hideIf true contents).filter isBrace = [] := filter_blank contents
    have mark : [quote.mark].filter isBrace = [] := by
      cases quote <;> rfl
    have marks : (closing (ending = .closed) [quote.mark]).filter isBrace = [] := by
      cases ending
      · exact mark
      · rfl
      · rfl
    show ([quote.mark] ++ (hideIf true contents ++ _)).filter isBrace = []
    rw [List.filter_append, List.filter_append, mark, hidden, marks]
    rfl

/-- All braces that are shown are tokens of their own. -/
theorem filter_masked_tokens (tokens : List Token) :
    (tokens.flatMap (Token.masked .full)).filter isBrace =
      (tokens.filterMap Token.single?).filter isBrace := by
  induction tokens with
  | nil => rfl
  | cons token tokens inductionHypothesis =>
    rw [List.flatMap_cons, List.filter_append, Token.filter_masked, inductionHypothesis,
      ← List.filter_append]
    cases token <;> rfl

/-! ### Literals that tokens leave cut off -/

theorem map_char_cellsOver (cursor : Cursor) (front rest : Text) :
    (cellsOver cursor front rest).map Cell.char = front := by
  induction front generalizing cursor with
  | nil => rfl
  | cons char front inductionHypothesis =>
    rw [cellsOver, List.map_cons, inductionHypothesis]

theorem Token.Taken.map_char_cells {token : Token} {text rest : Text}
    (taken : token.Taken text rest) : token.cells.map Cell.char = token.text := by
  rw [← taken.passes.cellsOver .plain, map_char_cellsOver]

theorem cutsOff_of_mem_paintedIn {region : Region} {paint : Paint} {text : Text} {cell : Cell}
    (calm : paint ≠ .plain ∨ '\n' ∉ text) (member : cell ∈ paintedIn region paint text) :
    cell.cutsOff = false := by
  obtain ⟨char, inside, rfl⟩ := List.mem_map.mp member
  exact Cell.cutsOff_eq_false (calm.imp_right fun missing => ne_of_mem_of_not_mem inside missing)

theorem cutsOff_of_mem_paintedSign {source target : Region} {paint : Paint} {text : Text}
    {cell : Cell} (calm : paint ≠ .plain ∨ '\n' ∉ text)
    (member : cell ∈ paintedSign source target paint text) : cell.cutsOff = false := by
  cases text with
  | nil => cases member
  | cons char text =>
    obtain rfl | later := List.mem_cons.mp member
    · exact Cell.cutsOff_eq_false
        (calm.imp_right fun missing => (List.ne_of_not_mem_cons missing).symm)
    · exact cutsOff_of_mem_paintedIn (calm.imp_right List.not_mem_of_not_mem_cons) later

/-- No newline inside a token cuts a literal off: one that does is a token of its own. -/
theorem Token.cutsOff_of_mem_cells {token : Token} {cell : Cell} (member : cell ∈ token.cells) :
    cell.cutsOff = false := by
  cases token with
  | single char =>
    obtain rfl := List.mem_singleton.mp member
    simp [Cell.cutsOff]
  | lineComment contents =>
    obtain mark | inside := List.mem_append.mp member
    · exact cutsOff_of_mem_paintedSign (.inl (by decide)) mark
    · exact cutsOff_of_mem_paintedIn (.inl (by decide)) inside
  | blockComment contents closed =>
    obtain mark | inside | closing := (List.mem_append.mp member).imp_right List.mem_append.mp
    · exact cutsOff_of_mem_paintedSign (.inl (by decide)) mark
    · exact cutsOff_of_mem_paintedIn (.inl (by decide)) inside
    · exact cutsOff_of_mem_paintedSign (.inl (by decide)) closing
  | textBlock contents closed =>
    obtain mark | inside | closing := (List.mem_append.mp member).imp_right List.mem_append.mp
    · exact cutsOff_of_mem_paintedSign (.inr (by decide)) mark
    · exact cutsOff_of_mem_paintedIn (.inl (by decide)) inside
    · exact cutsOff_of_mem_paintedSign (.inr (by cases closed <;> decide)) closing
  | quoted quote contents ending =>
    obtain mark | inside | closing := (List.mem_append.mp member).imp_right List.mem_append.mp
    · exact cutsOff_of_mem_paintedSign (.inr (by cases quote <;> decide)) mark
    · exact cutsOff_of_mem_paintedIn (.inl (by decide)) inside
    · exact cutsOff_of_mem_paintedSign (.inr (by cases quote <;> cases ending <;> decide)) closing

/-- The literal that is cut off at once: the one in whose region the walk stands, if there is more
text. -/
def pending (region : Region) (line : Nat) (text : Text) : List (Region × Nat) :=
  if (region = .string ∨ region = .char) ∧ text ≠ [] then [(region, line)] else []

/-- A token is cut off just if it leaves a quoted literal open and there is more text. -/
theorem Token.Precedes.cutOffTokens {token : Token} {rest : Text} (ahead : token.Precedes rest)
    (line : Nat) (tokens : List Token) :
    cutOffTokens line (token :: tokens) =
      pending token.leaves (line + token.text.count '\n') rest ++
        Java.cutOffTokens (line + token.text.count '\n') tokens := by
  match token with
  | .single _ | .blockComment _ true | .textBlock _ true | .quoted _ _ .closed => rfl
  | .lineComment _ => rfl
  | .blockComment _ false | .textBlock _ false => rfl
  | .quoted quote _ .unclosed =>
    rw [show rest = [] from ahead]
    cases quote <;> rfl
  | .quoted quote _ .cutOff =>
    obtain ⟨rest, rfl⟩ := List.head?_eq_some_iff.mp ahead
    cases quote <;> rfl

/-- The literals that are cut off are those of the tokens, line by line. -/
theorem Lexed.cutOff {region : Region} {text : Text} {tokens : List Token}
    (lexed : Lexed region text tokens) (line : Nat) (paint : Paint) :
    cutOffFrom line (cellsFrom ⟨region, 0, paint⟩ text) =
      pending region line text ++ cutOffTokens line tokens := by
  induction lexed generalizing line paint with
  | done region =>
    rw [pending, if_neg fun more => more.2 rfl]
    rfl
  | token taken more inductionHypothesis =>
    obtain ⟨last, equal⟩ := taken.passes.cellsFrom paint
    rw [taken.ahead.cutOffTokens, ← inductionHypothesis _ last, ← taken.map_char_cells,
      taken.text_eq, equal, cutOffFrom_append,
      cutOffFrom_eq_nil fun _ => Token.cutsOff_of_mem_cells]
    rfl
  | newline ends more inductionHypothesis =>
    have later := inductionHypothesis (line + 1) .plain
    rw [ends.cellsFrom, cutOffFrom, cells, Cursor.start, if_pos rfl, later]
    obtain rfl | rfl | rfl := ends <;> rfl

/-! ### What the last token leaves open -/

theorem Lexed.eq_nil {region : Region} {text : Text} (lexed : Lexed region text []) :
    text = [] := by
  cases lexed
  rfl

theorem Token.Precedes.openRegion {token : Token} (ahead : token.Precedes []) :
    token.leaves.atEnd = token.openRegion := by
  match token with
  | .single _ | .blockComment _ true | .textBlock _ true | .quoted _ _ .closed => rfl
  | .lineComment _ => rfl
  | .blockComment _ false | .textBlock _ false => rfl
  | .quoted quote _ .unclosed => cases quote <;> rfl
  | .quoted quote _ .cutOff => cases ahead

/-- The region that is open at the end is the one that the last token leaves open. -/
theorem Lexed.openRegion {region : Region} {text : Text} {tokens : List Token}
    (lexed : Lexed region text tokens) (paint : Paint) :
    (walkFrom ⟨region, 0, paint⟩ text).region.atEnd =
      (tokens.getLast?.map Token.openRegion).getD region.atEnd := by
  induction lexed generalizing paint with
  | done region => rfl
  | @token token text rest tokens taken more inductionHypothesis =>
    obtain ⟨last, equal⟩ := taken.passes.walkFrom paint
    rw [taken.text_eq, equal, inductionHypothesis]
    cases tokens with
    | nil =>
      obtain rfl := more.eq_nil
      exact taken.ahead.openRegion
    | cons next tokens => rw [List.getLast?_cons_cons, List.getLast?_cons]; rfl
  | @newline region rest tokens ends more inductionHypothesis =>
    rw [walkFrom, Cursor.step, ends.sign_newline, Cursor.start, inductionHypothesis]
    cases tokens with
    | nil => rfl
    | cons next tokens => rw [List.getLast?_cons_cons, List.getLast?_cons]; rfl

/-! ### The walk is a lexer -/

theorem Lexed.text_eq {region : Region} {text : Text} {tokens : List Token}
    (lexed : Lexed region text tokens) : tokens.flatMap Token.text = text := by
  induction lexed with
  | done => rfl
  | token taken more inductionHypothesis =>
    rw [List.flatMap_cons, inductionHypothesis, taken.text_eq]
  | newline ends more inductionHypothesis =>
    rw [List.flatMap_cons, inductionHypothesis]
    rfl

/-- The braces that show under the full mask are those of the tokens. -/
theorem Lexed.filter_masked {text : Text} {tokens : List Token} (lexed : Lexed .code text tokens) :
    (masked .full text).filter isBrace = (tokens.filterMap Token.single?).filter isBrace := by
  rw [← filter_masked_tokens, ← lexed.shown .full .plain, masked_eq]
  rfl

theorem map_weight_cells (text : Text) :
    (cells text).map Cell.weight = (masked .full text).map weight := by
  rw [masked_eq, List.map_map]
  exact List.map_congr_left fun cell _ => cell.weight_shown.symm

/-- The depth counts the braces among the tokens. -/
theorem Lexed.depth {text : Text} {tokens : List Token} (lexed : Lexed .code text tokens) :
    depthAfter ((cells text).map Cell.weight) = surplus (tokens.filterMap Token.single?) := by
  calc depthAfter ((cells text).map Cell.weight)
      = balance (masked .full text) := by rw [map_weight_cells]; rfl
    _ = balance (tokens.filterMap Token.single?) := by
        rw [← balance_filter, lexed.filter_masked, balance_filter]
    _ = surplus (tokens.filterMap Token.single?) := balance_eq_count _

/-- The lowest depth is found at a front of the braces among the tokens. -/
theorem Lexed.lowest {text : Text} {tokens : List Token} (lexed : Lexed .code text tokens) :
    lowestDepth ((cells text).map Cell.weight) =
      ((tokens.filterMap Token.single?).inits.map surplus).foldr min 0 := by
  calc lowestDepth ((cells text).map Cell.weight)
      = lowestDepth ((masked .full text).map weight) := by rw [map_weight_cells]
    _ = lowestDepth ((tokens.filterMap Token.single?).map weight) := by
        rw [← lowestDepth_filter, lexed.filter_masked, lowestDepth_filter]
    _ = ((tokens.filterMap Token.single?).inits.map surplus).foldr min 0 :=
        lowestDepth_eq_foldr _

/-- The tokens of a text follow one another without a gap, and a walk over the text finds out what
they say, whatever it masks. -/
theorem scan_eq_scanOfTokens (mask : Mask) (text : Text) :
    (tokens text).flatMap Token.text = text ∧
      scan mask text = scanOfTokens mask (tokens text) := by
  have lexed := lexed_tokens text
  refine ⟨lexed.text_eq, ?_⟩
  rw [scan_eq, scanOfTokens, Scan.mk.injEq]
  exact ⟨lexed.depth, lexed.lowest, lexed.openRegion .plain, lexed.shown mask .plain,
    lexed.cutOff 1 .plain⟩

end BrowserPlan.Java
