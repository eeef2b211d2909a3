/-
This file follows the walk over Java text token by token.

A token is walked over from one place between two signs to another. Behind most tokens the walk
is in code again. A comment to the end of its line and a literal that its line cuts off are left
at a newline, which the walk meets in their region and which is a token of its own. So a text is
seen with the region in which its first token is met, and what is read off the walk is then an
induction over its tokens.
-/

import BrowserPlan.Proofs.Java.Token
import BrowserPlan.Proofs.Java.Walk
import Mathlib.Data.List.TakeWhile

namespace BrowserPlan.Java

/-! ### From one place between two signs to another -/

theorem cellsOver_append (cursor : Cursor) (front back rest : Text) :
    cellsOver cursor (front ++ back) rest =
      cellsOver cursor front (back ++ rest) ++
        cellsOver (passOver cursor front (back ++ rest)) back rest := by
  induction front generalizing cursor with
  | nil => rfl
  | cons char front inductionHypothesis =>
    rw [List.cons_append, cellsOver, inductionHypothesis, List.append_assoc]
    rfl

theorem passOver_append (cursor : Cursor) (front back rest : Text) :
    passOver cursor (front ++ back) rest =
      passOver (passOver cursor front (back ++ rest)) back rest := by
  induction front generalizing cursor with
  | nil => rfl
  | cons char front inductionHypothesis =>
    rw [List.cons_append, passOver, inductionHypothesis, List.append_assoc]
    rfl

/-- The walk over `front`, with `rest` behind it, goes from between two signs in the region
`source` to between two signs in the region `target` and paints the given characters. -/
structure Passes (source : Region) (front rest : Text) (painted : List Cell) (target : Region) :
    Prop where
  cellsOver : ∀ paint, cellsOver ⟨source, 0, paint⟩ front rest = painted
  passOver : ∀ paint, ∃ last, passOver ⟨source, 0, paint⟩ front rest = ⟨target, 0, last⟩

theorem passes_nil (region : Region) (rest : Text) : Passes region [] rest [] region :=
  ⟨fun _ => rfl, fun paint => ⟨paint, rfl⟩⟩

/-- Passing over two parts one after the other passes over both. -/
theorem Passes.append {source middle target : Region} {front back rest : Text}
    {painted more : List Cell} (first : Passes source front (back ++ rest) painted middle)
    (second : Passes middle back rest more target) :
    Passes source (front ++ back) rest (painted ++ more) target := by
  constructor
  · intro paint
    obtain ⟨last, passed⟩ := first.passOver paint
    rw [cellsOver_append, first.cellsOver, passed, second.cellsOver]
  · intro paint
    obtain ⟨last, passed⟩ := first.passOver paint
    rw [passOver_append, passed]
    exact second.passOver last

/-- Behind a part that is passed over the walk goes on as painted. -/
theorem Passes.cellsFrom {source target : Region} {front rest : Text} {painted : List Cell}
    (passes : Passes source front rest painted target) (paint : Paint) :
    ∃ last, cellsFrom ⟨source, 0, paint⟩ (front ++ rest) =
      painted ++ cellsFrom ⟨target, 0, last⟩ rest := by
  obtain ⟨last, passed⟩ := passes.passOver paint
  exact ⟨last, by rw [cellsFrom_append, passes.cellsOver, passed]⟩

theorem Passes.walkFrom {source target : Region} {front rest : Text} {painted : List Cell}
    (passes : Passes source front rest painted target) (paint : Paint) :
    ∃ last, walkFrom ⟨source, 0, paint⟩ (front ++ rest) = walkFrom ⟨target, 0, last⟩ rest := by
  obtain ⟨last, passed⟩ := passes.passOver paint
  exact ⟨last, by rw [walkFrom_append, passed]⟩

/-! ### Signs and runs of signs -/

/-- Characters that are owed are painted as was decided before them. -/
theorem cellsOver_owed (region : Region) (paint : Paint) (owed rest : Text) :
    cellsOver ⟨region, owed.length, paint⟩ owed rest = paintedIn region paint owed := by
  induction owed with
  | nil => rfl
  | cons char owed inductionHypothesis => exact congrArg (List.cons _) inductionHypothesis

theorem passOver_owed (region : Region) (paint : Paint) (owed rest : Text) :
    passOver ⟨region, owed.length, paint⟩ owed rest = ⟨region, 0, paint⟩ := by
  induction owed with
  | nil => rfl
  | cons char owed inductionHypothesis => exact inductionHypothesis

/-- A sign is passed over as a whole. -/
theorem passes_sign {source target : Region} {paint : Paint} {char : Char} {more rest : Text}
    (opens : sign source char (more ++ rest) = ⟨target, more.length, paint⟩) :
    Passes source (char :: more) rest (paintedSign source target paint (char :: more))
      target := by
  constructor
  · intro before
    show _ :: cellsOver (sign source char (more ++ rest)) more rest = _
    rw [Cursor.step, opens, cellsOver_owed]
    rfl
  · intro before
    show ∃ last, passOver (sign source char (more ++ rest)) more rest = _
    rw [opens, passOver_owed]
    exact ⟨paint, rfl⟩

/-- Contents in which nothing stops the region are passed over character by character. -/
theorem passes_run {region : Region} {paint : Paint} {stops : Text → Bool}
    (inside : ∀ char following, stops (char :: following) = false →
      sign region char following = ⟨region, 0, paint⟩)
    {contents rest : Text}
    (quiet : ∀ position < contents.length, stops ((contents ++ rest).drop position) = false) :
    Passes region contents rest (paintedIn region paint contents) region := by
  induction contents with
  | nil => exact passes_nil region rest
  | cons char contents inductionHypothesis =>
    have here : Passes region [char] (contents ++ rest) (paintedIn region paint [char]) region :=
      passes_sign (inside char _ (quiet 0 (Nat.succ_pos _)))
    exact here.append (inductionHypothesis fun position before =>
      quiet (position + 1) (Nat.succ_lt_succ before))

/-- A literal goes on until the text stops as given, and a backslash takes the next character
with it. -/
def IsLiteral (region : Region) (stops : Text → Bool) : Prop :=
  ∀ char following, stops (char :: following) = false →
    sign region char following =
      if char = '\\' ∧ following ≠ [] then ⟨region, 1, .literal⟩ else ⟨region, 0, .literal⟩

/-- Contents of a literal in which nothing stops it but what is escaped are passed over, a
backslash together with what it escapes. -/
theorem passes_literal {region : Region} {stops : Text → Bool}
    (isLiteral : IsLiteral region stops) (contents rest : Text)
    (quiet : ∀ position < contents.length, escapesNext (contents.take position) = false →
      stops ((contents ++ rest).drop position) = false)
    (ends : escapesNext contents = false ∨ rest = []) :
    Passes region contents rest (paintedIn region .literal contents) region := by
  match contents with
  | [] => exact passes_nil region rest
  | [char] =>
    have free : ¬ (char = '\\' ∧ rest ≠ []) := by
      rintro ⟨rfl, more⟩
      rcases ends with unescaped | nothing
      · cases unescaped
      · exact more nothing
    refine passes_sign ?_
    exact (isLiteral char rest (quiet 0 Nat.zero_lt_one rfl)).trans (if_neg free)
  | char :: next :: contents =>
    have here := isLiteral char (next :: (contents ++ rest)) (quiet 0 (Nat.succ_pos _) rfl)
    by_cases backslash : char = '\\'
    · subst backslash
      rw [if_pos ⟨rfl, List.cons_ne_nil _ _⟩] at here
      have pair : Passes region ['\\', next] (contents ++ rest)
          (paintedIn region .literal ['\\', next]) region := passes_sign here
      refine pair.append
        (passes_literal isLiteral contents rest (fun position before free => ?_) ?_)
      · refine quiet (position + 2) (Nat.add_lt_add_right before 2) ?_
        rwa [List.take_succ_cons, List.take_succ_cons, escapesNext_pair]
      · rwa [escapesNext_pair] at ends
    · rw [if_neg fun escapes => backslash escapes.1] at here
      have single : Passes region [char] (next :: contents ++ rest)
          (paintedIn region .literal [char]) region := passes_sign here
      refine single.append
        (passes_literal isLiteral (next :: contents) rest (fun position before free => ?_) ?_)
      · refine quiet (position + 1) (Nat.succ_lt_succ before) ?_
        rwa [List.take_succ_cons, escapesNext_cons backslash]
      · rwa [escapesNext_cons backslash] at ends

/-- The contents of a literal are passed over up to the first place that stops it. -/
theorem passes_contents {region : Region} {stops : Text → Bool}
    (isLiteral : IsLiteral region stops) {text : Text} {position : Nat}
    (found : firstUnescaped? stops text = some position) :
    Passes region (text.take position) (text.drop position)
      (paintedIn region .literal (text.take position)) region := by
  obtain ⟨_, free, _, goesOn⟩ := firstUnescaped?_eq_some found
  refine passes_literal isLiteral _ _ (fun earlier before unescaped => ?_) (.inl free)
  have earlierThan : earlier < position := before.trans_le (List.length_take_le _ _)
  rw [List.take_take, min_eq_left earlierThan.le] at unescaped
  rw [List.take_append_drop]
  exact goesOn earlier earlierThan unescaped

/-- A literal that nothing stops goes on to the end of the text. -/
theorem passes_contents_to_end {region : Region} {stops : Text → Bool}
    (isLiteral : IsLiteral region stops) {text : Text}
    (missing : firstUnescaped? stops text = none) :
    Passes region text [] (paintedIn region .literal text) region := by
  refine passes_literal isLiteral _ _ (fun position before unescaped => ?_) (.inr rfl)
  rw [List.append_nil]
  exact firstUnescaped?_eq_none missing position before.le unescaped

/-! ### What stops a region -/

theorem opensWith_pair_iff {first second char : Char} {text : Text} :
    Text.opensWith [first, second] (char :: text) = true ↔
      char = first ∧ (lookahead text).1 = some second := by
  rw [Text.opensWith_iff, List.cons_prefix_cons, eq_comm]
  match text with
  | [] => simp [lookahead]
  | [next] => simp [lookahead, @eq_comm Char second]
  | next :: _ :: _ => simp [lookahead, @eq_comm Char second]

theorem opensWith_blockMark_iff {char : Char} {text : Text} :
    Text.opensWith Token.blockMark (char :: text) = true ↔
      char = '"' ∧ (lookahead text).2 = true := by
  rw [Text.opensWith_iff, show Token.blockMark = ['"', '"', '"'] from rfl,
    List.cons_prefix_cons, eq_comm]
  match text with
  | [] => simp [lookahead]
  | [next] => simp [lookahead]
  | next :: after :: _ => simp [lookahead, @eq_comm Char '"']

theorem lineCommentSign_of_ne {char : Char} (notNewline : char ≠ '\n') (following : Text) :
    sign .lineComment char following = ⟨.lineComment, 0, .comment⟩ :=
  if_neg notNewline

theorem blockCommentSign_of_not_closing {char : Char} {following : Text}
    (goesOn : Text.opensWith "*/" (char :: following) = false) :
    sign .blockComment char following = ⟨.blockComment, 0, .comment⟩ := by
  rw [sign, blockCommentSign_eq, if_neg]
  exact fun closes => Bool.eq_false_iff.mp goesOn (opensWith_pair_iff.mpr closes)

theorem isLiteral_textBlock : IsLiteral .textBlock (Text.opensWith Token.blockMark) := by
  intro char following goesOn
  have notClosing : ¬ (char = '"' ∧ (lookahead following).2 = true) :=
    fun closes => Bool.eq_false_iff.mp goesOn (opensWith_blockMark_iff.mpr closes)
  rw [sign, textBlockSign_eq, if_neg notClosing]
  simp only [ne_eq, lookahead_fst_eq_none_iff]

theorem sign_quote_region (quote : Quote) (char : Char) (following : Text) :
    sign quote.region char following =
      quotedSign quote.region quote.mark char following := by
  cases quote <;> rfl

/-- A quoted literal stops at its quote and at a newline. -/
theorem isLiteral_quote (quote : Quote) : IsLiteral quote.region quote.stops := by
  intro char following goesOn
  have notStopping : ¬ (char = quote.mark ∨ char = '\n') := by
    simpa [Quote.stops] using goesOn
  rw [sign_quote_region, quotedSign_eq, if_neg notStopping]
  simp only [ne_eq, lookahead_fst_eq_none_iff]

/-! ### Taking a token -/

namespace Token

/-- The region that the walk is in behind a token. -/
def leaves : Token → Region
  | .single _ => .code
  | .lineComment _ => .lineComment
  | .blockComment _ closed => if closed then .code else .blockComment
  | .textBlock _ closed => if closed then .code else .textBlock
  | .quoted quote _ ending => if ending = .closed then .code else quote.region

/-- The characters of a token as the walk paints them from code on. -/
def cells : Token → List Cell
  | .single char => paintedSign .code .code .plain [char]
  | .lineComment contents =>
      paintedSign .code .lineComment .comment "//" ++ paintedIn .lineComment .comment contents
  | .blockComment contents closed =>
      paintedSign .code .blockComment .comment "/*" ++
        (paintedIn .blockComment .comment contents ++
          paintedSign .blockComment .code .comment (closing closed "*/"))
  | .textBlock contents closed =>
      paintedSign .code .textBlock .plain blockMark ++
        (paintedIn .textBlock .literal contents ++
          paintedSign .textBlock .code .plain (closing closed blockMark))
  | .quoted quote contents ending =>
      paintedSign .code quote.region .plain [quote.mark] ++
        (paintedIn quote.region .literal contents ++
          paintedSign quote.region .code .plain (closing (ending = .closed) [quote.mark]))

/-- What has to follow a token: what ends it, if that is no part of it. -/
def Precedes : Token → Text → Prop
  | .lineComment _, rest => rest = [] ∨ rest.head? = some '\n'
  | .blockComment _ false, rest => rest = []
  | .textBlock _ false, rest => rest = []
  | .quoted _ _ .unclosed, rest => rest = []
  | .quoted _ _ .cutOff, rest => rest.head? = some '\n'
  | _, _ => True

/-- A token stands at the front of a text, and the walk sees it there. -/
structure Taken (token : Token) (text rest : Text) : Prop where
  text_eq : text = token.text ++ rest
  passes : Passes .code token.text rest token.cells token.leaves
  ahead : token.Precedes rest

theorem single_taken {char : Char} {text : Text} (plain : sign .code char text = .start) :
    Taken (.single char) (char :: text) text :=
  ⟨rfl, passes_sign plain, trivial⟩

theorem lineComment_taken (text : Text) :
    (ofLineComment text).Taken ('/' :: '/' :: text) (text.dropWhile (· ≠ '\n')) := by
  have mark (rest : Text) : Passes .code "//" rest
      (paintedSign .code .lineComment .comment "//") .lineComment :=
    passes_sign rfl
  have contents : Passes .lineComment (text.takeWhile (· ≠ '\n')) (text.dropWhile (· ≠ '\n'))
      (paintedIn .lineComment .comment (text.takeWhile (· ≠ '\n'))) .lineComment := by
    refine @passes_run _ _ (fun rest => rest.head? = some '\n')
      (fun char following goesOn => ?_) _ _ fun position before => ?_
    · exact lineCommentSign_of_ne (by simpa using goesOn) following
    · have here := List.mem_takeWhile_imp (List.getElem_mem before)
      rw [List.head?_drop, List.getElem?_append_left before, List.getElem?_eq_getElem before]
      simpa using here
  refine ⟨?_, (mark _).append contents, ?_⟩
  · rw [ofLineComment, Token.text, List.append_assoc, List.takeWhile_append_dropWhile]
    rfl
  · cases equal : text.dropWhile (· ≠ '\n') with
    | nil => exact .inl rfl
    | cons char rest =>
      have stopped := List.head?_dropWhile_not (fun char => decide (char ≠ '\n')) text
      rw [equal] at stopped
      exact .inr (by simpa using stopped)

theorem eq_append_of_opensWith {mark text : Text} (opens : Text.opensWith mark text = true) :
    ∃ rest, text = mark ++ rest := by
  obtain ⟨rest, equal⟩ := Text.opensWith_iff.mp opens
  exact ⟨rest, equal.symm⟩

theorem blockComment_taken (text : Text) :
    ∃ rest, (ofBlockComment text).Taken ('/' :: '*' :: text) rest := by
  have mark (rest : Text) : Passes .code "/*" rest
      (paintedSign .code .blockComment .comment "/*") .blockComment :=
    passes_sign rfl
  cases found : firstPosition? (fun _ rest => Text.opensWith "*/" rest) text with
  | some position =>
    obtain ⟨_, closes, goesOn⟩ := firstPosition?_eq_some found
    obtain ⟨rest, equal⟩ := eq_append_of_opensWith closes
    have contents : Passes .blockComment (text.take position) ("*/" ++ rest)
        (paintedIn .blockComment .comment (text.take position)) .blockComment := by
      refine passes_run (fun _ _ => blockCommentSign_of_not_closing) fun earlier before => ?_
      rw [← equal, List.take_append_drop]
      exact goesOn earlier (before.trans_le (List.length_take_le _ _))
    have closing : Passes .blockComment "*/" rest
        (paintedSign .blockComment .code .comment "*/") .code :=
      passes_sign rfl
    rw [ofBlockComment, found]
    refine ⟨rest, ?_, (mark _).append (contents.append closing), trivial⟩
    show '/' :: '*' :: text = '/' :: '*' :: (text.take position ++ "*/" ++ rest)
    rw [List.append_assoc, ← equal, List.take_append_drop]
  | none =>
    have contents : Passes .blockComment text [] (paintedIn .blockComment .comment text)
        .blockComment := by
      refine passes_run (fun _ _ => blockCommentSign_of_not_closing) fun position before => ?_
      rw [List.append_nil]
      exact firstPosition?_eq_none found position before.le
    rw [ofBlockComment, found]
    refine ⟨[], ?_, (mark _).append (contents.append (passes_nil _ _)), rfl⟩
    simp [Token.text, Token.closing]

theorem textBlock_taken (text : Text) :
    ∃ rest, (ofTextBlock text).Taken (blockMark ++ text) rest := by
  have mark (rest : Text) : Passes .code blockMark rest
      (paintedSign .code .textBlock .plain blockMark) .textBlock :=
    passes_sign rfl
  cases found : firstUnescaped? (Text.opensWith blockMark) text with
  | some position =>
    have contents := passes_contents isLiteral_textBlock found
    obtain ⟨_, _, closes, _⟩ := firstUnescaped?_eq_some found
    obtain ⟨rest, equal⟩ := eq_append_of_opensWith closes
    rw [equal] at contents
    have closing : Passes .textBlock blockMark rest
        (paintedSign .textBlock .code .plain blockMark) .code :=
      passes_sign rfl
    rw [ofTextBlock, found]
    refine ⟨rest, ?_, (mark _).append (contents.append closing), trivial⟩
    show blockMark ++ text = blockMark ++ (text.take position ++ blockMark) ++ rest
    rw [List.append_assoc, List.append_assoc, ← equal, List.take_append_drop]
  | none =>
    have contents := passes_contents_to_end isLiteral_textBlock found
    rw [ofTextBlock, found]
    refine ⟨[], ?_, (mark _).append (contents.append (passes_nil _ _)), rfl⟩
    simp [Token.text, Token.closing]

theorem passes_quote (quote : Quote) (rest : Text) :
    Passes quote.region [quote.mark] rest (paintedSign quote.region .code .plain [quote.mark])
      .code := by
  refine passes_sign ?_
  cases quote <;> rfl

/-- A quoted literal is one token up to its quote, a newline or the end. -/
theorem quoted_taken {quote : Quote} {text : Text}
    (opens : sign .code quote.mark text = ⟨quote.region, 0, .plain⟩) :
    ∃ rest, (ofQuoted quote text).Taken (quote.mark :: text) rest := by
  have mark {rest : Text} (same : text = rest) : Passes .code [quote.mark] rest
      (paintedSign .code quote.region .plain [quote.mark]) quote.region := by
    rw [← same]
    exact passes_sign opens
  cases found : firstUnescaped? quote.stops text with
  | some position =>
    have contents := passes_contents (isLiteral_quote quote) found
    have whole : text = text.take position ++ text.drop position :=
      (List.take_append_drop _ _).symm
    obtain ⟨_, _, stopped, _⟩ := firstUnescaped?_eq_some found
    rw [ofQuoted, found]
    dsimp only
    split_ifs with closes
    · obtain ⟨rest, equal⟩ := List.head?_eq_some_iff.mp closes
      rw [equal] at contents whole
      have parts : text = (text.take position ++ [quote.mark]) ++ rest := by
        rwa [List.append_assoc, List.singleton_append]
      exact ⟨rest, congrArg (List.cons _) parts,
        (mark parts).append (contents.append (passes_quote quote rest)), trivial⟩
    · have newline : (text.drop position).head? = some '\n' := by
        rw [Quote.stops, Bool.or_eq_true, decide_eq_true_eq, decide_eq_true_eq] at stopped
        exact stopped.resolve_left closes
      have parts : text = (text.take position ++ []) ++ text.drop position := by
        rwa [List.append_nil]
      exact ⟨_, congrArg (List.cons _) parts,
        (mark parts).append (contents.append (passes_nil _ _)), newline⟩
  | none =>
    have contents := passes_contents_to_end (isLiteral_quote quote) found
    have parts : text = (text ++ []) ++ [] := by
      rw [List.append_nil, List.append_nil]
    rw [ofQuoted, found]
    exact ⟨[], congrArg (List.cons _) parts,
      (mark parts).append (contents.append (passes_nil _ _)), rfl⟩

/-- A token stands at the front of every text but the empty one. -/
theorem front_taken (char : Char) (text : Text) :
    ∃ rest, (front char text).Taken (char :: text) rest := by
  unfold front
  split
  · exact ⟨_, lineComment_taken _⟩
  · exact blockComment_taken _
  · exact textBlock_taken _
  · refine @quoted_taken .double _ ?_
    simp [sign, codeSign, Quote.mark, Quote.region]
  · exact @quoted_taken .single _ rfl
  · refine ⟨_, single_taken ?_⟩
    simp_all [sign, codeSign, Cursor.start]

end Token

/-! ### Following a text token by token -/

/-- The regions that end where their line ends. -/
def Region.EndsWithLine (region : Region) : Prop :=
  region = .lineComment ∨ region = .string ∨ region = .char

/-- The text that the walk is to see in the region consists of the tokens. A newline may still be
met in the region of the token that it ends. -/
inductive Lexed : Region → Text → List Token → Prop where
  | done (region : Region) : Lexed region [] []
  | token {token : Token} {text rest : Text} {tokens : List Token}
      (taken : token.Taken text rest) (more : Lexed token.leaves rest tokens) :
      Lexed .code text (token :: tokens)
  | newline {region : Region} {rest : Text} {tokens : List Token} (ends : region.EndsWithLine)
      (more : Lexed .code rest tokens) : Lexed region ('\n' :: rest) (.single '\n' :: tokens)

/-- The only token that starts with a newline is the newline. -/
theorem Token.eq_single_newline {token : Token} {rest after : Text}
    (starts : '\n' :: rest = token.text ++ after) : token = .single '\n' ∧ rest = after := by
  cases token with
  | single char =>
    obtain ⟨rfl, rfl⟩ := List.cons.inj starts
    exact ⟨rfl, rfl⟩
  | lineComment => exact absurd (List.cons.inj starts).1 (by decide)
  | blockComment => exact absurd (List.cons.inj starts).1 (by decide)
  | textBlock => exact absurd (List.cons.inj starts).1 (by decide)
  | quoted quote => cases quote <;> exact absurd (List.cons.inj starts).1 (by decide)

/-- A text that is seen from code on may as well be seen from what its first newline ends. -/
theorem Lexed.of_newline {region : Region} {rest : Text} {tokens : List Token}
    (ends : region.EndsWithLine) (lexed : Lexed .code ('\n' :: rest) tokens) :
    Lexed region ('\n' :: rest) tokens := by
  generalize equal : '\n' :: rest = text at lexed
  cases lexed with
  | done => cases equal
  | token taken more =>
    rw [taken.text_eq] at equal
    obtain ⟨rfl, rfl⟩ := Token.eq_single_newline equal
    rw [taken.text_eq]
    exact .newline ends more
  | newline fromCode => cases fromCode <;> contradiction

/-- Behind a token the walk goes on in code, or there is nothing left, or there is the newline
that ends the token. -/
theorem Token.Precedes.cases {token : Token} {rest : Text} (ahead : token.Precedes rest) :
    token.leaves = .code ∨ rest = [] ∨
      token.leaves.EndsWithLine ∧ rest.head? = some '\n' := by
  match token with
  | .single _ | .blockComment _ true | .textBlock _ true | .quoted _ _ .closed => exact .inl rfl
  | .blockComment _ false | .textBlock _ false | .quoted _ _ .unclosed => exact .inr (.inl ahead)
  | .lineComment _ => exact .inr (ahead.imp_right fun newline => ⟨.inl rfl, newline⟩)
  | .quoted .double _ .cutOff => exact .inr (.inr ⟨.inr (.inl rfl), ahead⟩)
  | .quoted .single _ .cutOff => exact .inr (.inr ⟨.inr (.inr rfl), ahead⟩)

/-- Every text is made up of its tokens, from the first on. -/
theorem lexed_tokens (text : Text) : Lexed .code text (tokens text) := by
  induction text using tokens.induct with
  | case1 =>
    rw [tokens]
    exact .done _
  | case2 char text front inductionHypothesis =>
    obtain ⟨rest, taken⟩ := Token.front_taken char text
    have left : (char :: text).drop front.text.length = rest := by
      rw [taken.text_eq]
      exact List.drop_left
    rw [tokens]
    rw [left] at inductionHypothesis
    refine .token taken ?_
    show Lexed _ rest (tokens ((char :: text).drop front.text.length))
    rw [left]
    obtain code | rfl | ⟨ends, newline⟩ := taken.ahead.cases
    · rwa [code]
    · rw [tokens]
      exact .done _
    · obtain ⟨rest, rfl⟩ := List.head?_eq_some_iff.mp newline
      exact inductionHypothesis.of_newline ends

end BrowserPlan.Java
