/-
This file cuts Java text into tokens and says what the tokens mean.

A token is taken from the front of the text, and then the next one from what follows it. What
kind of token comes is seen from the first characters, and where it ends is said by the first
position that has what ends it: for a literal that is a position that no backslash escapes.

This is a second way to look at the text. The walk decides at every character and never looks
back; here a token is taken as a whole, and nothing is remembered from one token to the next.
-/

import BrowserPlan.Java.Scan
import Mathlib.Data.List.Infix

namespace BrowserPlan.Java

/-! ### Positions -/

/-- The first position of a text at which it divides as asked, given what stands before the
position and what stands from it on. -/
def firstPosition? (divides : (before rest : Text) → Bool) (text : Text) : Option Nat :=
  (List.range (text.length + 1)).find? fun position =>
    divides (text.take position) (text.drop position)

/-- Whether an unpaired backslash stands at the end of a text and escapes what follows. -/
def escapesNext (before : Text) : Bool :=
  (before.reverse.takeWhile (· = '\\')).length % 2 = 1

/-- The first position that is not escaped and from which on the text stops as asked. -/
def firstUnescaped? (stops : Text → Bool) (text : Text) : Option Nat :=
  firstPosition? (fun before rest => !escapesNext before && stops rest) text

/-- The first position that divides a text is told, and none before it does. -/
theorem firstPosition?_eq_some {divides : Text → Text → Bool} {text : Text} {position : Nat}
    (found : firstPosition? divides text = some position) :
    position ≤ text.length ∧ divides (text.take position) (text.drop position) = true ∧
      ∀ earlier < position, divides (text.take earlier) (text.drop earlier) = false := by
  obtain ⟨holds, inside, first⟩ := List.find?_range_eq_some.mp found
  refine ⟨Nat.lt_succ_iff.mp (List.mem_range.mp inside), holds, fun earlier before => ?_⟩
  simpa using first earlier before

theorem firstPosition?_eq_none {divides : Text → Text → Bool} {text : Text}
    (missing : firstPosition? divides text = none) :
    ∀ position ≤ text.length, divides (text.take position) (text.drop position) = false := by
  intro position inside
  simpa using List.find?_range_eq_none.mp missing position (Nat.lt_succ_of_le inside)

/-- The first stop that is not escaped is told. -/
theorem firstUnescaped?_eq_some {stops : Text → Bool} {text : Text} {position : Nat}
    (found : firstUnescaped? stops text = some position) :
    position ≤ text.length ∧ escapesNext (text.take position) = false ∧
      stops (text.drop position) = true ∧
      ∀ earlier < position, escapesNext (text.take earlier) = false →
        stops (text.drop earlier) = false := by
  obtain ⟨inside, divides, first⟩ := firstPosition?_eq_some found
  rw [Bool.and_eq_true, Bool.not_eq_true'] at divides
  refine ⟨inside, divides.1, divides.2, fun earlier before unescaped => ?_⟩
  simpa [unescaped] using first earlier before

theorem firstUnescaped?_eq_none {stops : Text → Bool} {text : Text}
    (missing : firstUnescaped? stops text = none) :
    ∀ position ≤ text.length, escapesNext (text.take position) = false →
      stops (text.drop position) = false := by
  intro position inside unescaped
  simpa [unescaped] using firstPosition?_eq_none missing position inside

/-- A character in front that is no backslash escapes nothing. -/
theorem escapesNext_cons {char : Char} (notBackslash : char ≠ '\\') (before : Text) :
    escapesNext (char :: before) = escapesNext before := by
  unfold escapesNext
  rw [List.reverse_cons, List.takeWhile_append]
  split_ifs with whole
  · rw [List.takeWhile_cons_of_neg (by simpa using notBackslash), List.append_nil, whole]
  · rfl

/-- A backslash in front escapes the character behind it and nothing further. -/
theorem escapesNext_pair (char : Char) (before : Text) :
    escapesNext ('\\' :: char :: before) = escapesNext before := by
  unfold escapesNext
  rw [List.reverse_cons, List.reverse_cons, List.append_assoc, List.takeWhile_append]
  split_ifs with whole
  · by_cases backslash : char = '\\'
    · simp [backslash, whole]
    · simp [backslash, whole]
  · rfl

/-! ### Tokens -/

/-- The quotes of literals that end with their line. -/
inductive Quote where
  | double
  | single
  deriving DecidableEq, Repr

/-- The character of a quote. -/
def Quote.mark : Quote → Char
  | .double => '"'
  | .single => '\''

/-- The region between two quotes. -/
def Quote.region : Quote → Region
  | .double => .string
  | .single => .char

/-- Whether a literal ends here, at its quote or at the end of its line. -/
def Quote.stops (quote : Quote) (rest : Text) : Bool :=
  rest.head? = some quote.mark || rest.head? = some '\n'

/-- How a literal between quotes ends: at its closing quote, before a newline, or with the
text. -/
inductive Ending where
  | closed
  | cutOff
  | unclosed
  deriving DecidableEq, Repr

/-- A token. What is closed has the mark that closes it. -/
inductive Token where
  | single (char : Char)
  | lineComment (contents : Text)
  | blockComment (contents : Text) (closed : Bool)
  | textBlock (contents : Text) (closed : Bool)
  | quoted (quote : Quote) (contents : Text) (ending : Ending)
  deriving DecidableEq, Repr

namespace Token

/-- Three quotes. -/
def blockMark : Text :=
  "\"\"\""

/-- The mark that stands at the end of what is closed. -/
def closing (closed : Bool) (mark : Text) : Text :=
  if closed then mark else []

/-- The characters of a token. -/
def text : Token → Text
  | .single char => [char]
  | .lineComment contents => "//" ++ contents
  | .blockComment contents closed => "/*" ++ (contents ++ closing closed "*/")
  | .textBlock contents closed => blockMark ++ (contents ++ closing closed blockMark)
  | .quoted quote contents ending =>
      quote.mark :: (contents ++ closing (ending = .closed) [quote.mark])

theorem text_ne_nil (token : Token) : token.text ≠ [] := by
  cases token <;> exact List.cons_ne_nil _ _

/-! ### Taking a token -/

/-- A comment up to the end of its line, given what follows its two slashes. -/
def ofLineComment (text : Text) : Token :=
  .lineComment (text.takeWhile (· ≠ '\n'))

/-- A comment up to the first asterisk and slash behind its opening mark. -/
def ofBlockComment (text : Text) : Token :=
  match firstPosition? (fun _ rest => Text.opensWith "*/" rest) text with
  | some position => .blockComment (text.take position) true
  | none => .blockComment text false

/-- A text block up to the first three quotes that are not escaped. -/
def ofTextBlock (text : Text) : Token :=
  match firstUnescaped? (Text.opensWith blockMark) text with
  | some position => .textBlock (text.take position) true
  | none => .textBlock text false

/-- A literal up to the first quote of its own or newline that is not escaped. -/
def ofQuoted (quote : Quote) (text : Text) : Token :=
  match firstUnescaped? quote.stops text with
  | some position =>
      .quoted quote (text.take position)
        (if (text.drop position).head? = some quote.mark then .closed else .cutOff)
  | none => .quoted quote text .unclosed

/-- The token at the front of a text with the given first character. -/
def front (char : Char) (text : Text) : Token :=
  match char, text with
  | '/', '/' :: text => ofLineComment text
  | '/', '*' :: text => ofBlockComment text
  | '"', '"' :: '"' :: text => ofTextBlock text
  | '"', text => ofQuoted .double text
  | '\'', text => ofQuoted .single text
  | char, _ => .single char

end Token

/-- The tokens of a text, taken one by one from its front. -/
def tokens : Text → List Token
  | [] => []
  | char :: text =>
      let token := Token.front char text
      token :: tokens ((char :: text).drop token.text.length)
termination_by text => text.length
decreasing_by
  have := List.length_pos_of_ne_nil (Token.text_ne_nil (Token.front char text))
  rw [List.length_drop, List.length_cons]
  omega

/-! ### What tokens mean -/

/-- A text with nothing left but its newlines. -/
def blank (text : Text) : Text :=
  text.map fun char => if char = '\n' then char else ' '

/-- A text that may be hidden. -/
def hideIf (hidden : Bool) (text : Text) : Text :=
  if hidden then blank text else text

/-- The number of opening braces without the number of closing ones. -/
def surplus (text : Text) : Int :=
  (text.count '\x7b' : Int) - text.count '\x7d'

namespace Token

/-- A token as it shows under a mask: a comment is hidden as a whole, a literal between its
marks. -/
def masked (mask : Mask) (token : Token) : Text :=
  match token with
  | .single char => [char]
  | .lineComment _ | .blockComment _ _ => hideIf mask.comments token.text
  | .textBlock contents closed =>
      blockMark ++ (hideIf mask.literals contents ++ closing closed blockMark)
  | .quoted quote contents ending =>
      quote.mark :: (hideIf mask.literals contents ++ closing (ending = .closed) [quote.mark])

/-- The character of a token that is nothing but a character. -/
def single? : Token → Option Char
  | .single char => some char
  | _ => none

/-- What a token leaves open at the end of the text. -/
def openRegion : Token → Region
  | .blockComment _ false => .blockComment
  | .textBlock _ false => .textBlock
  | .quoted quote _ .unclosed => quote.region
  | _ => .code

end Token

/-- The literals that a newline cuts off, each with the line that ends there, for tokens that
start in the given line. -/
def cutOffTokens (line : Nat) : List Token → List (Region × Nat)
  | [] => []
  | token :: tokens =>
      let last := line + token.text.count '\n'
      match token with
      | .quoted quote _ .cutOff => (quote.region, last) :: cutOffTokens last tokens
      | _ => cutOffTokens last tokens

/-- What tokens say about their text. Only braces that are tokens of their own count. -/
def scanOfTokens (mask : Mask) (tokens : List Token) : Scan :=
  let code := tokens.filterMap Token.single?
  { depth := surplus code
    lowest := (code.inits.map surplus).foldr min 0
    openRegion := (tokens.getLast?.map Token.openRegion).getD .code
    masked := tokens.flatMap (Token.masked mask)
    cutOff := cutOffTokens 1 tokens }

end BrowserPlan.Java
