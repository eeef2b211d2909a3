/-
This file is a plain screen, which shows text with style tags: the tags are left out.

A tag stands in brackets and starts with a small letter, a slash, a hash or an at sign. It has a
name and perhaps parameters behind an equals sign. A tag with a slash closes the last open tag
of its name, or the last open tag if it has no name; names of styles are compared in their one
form. A tag that starts with an at sign names a handler, and when it is closed its parameters
must be a literal. A backslash before a bracket takes its meaning away.

Between the tags, names of pictures become pictures, and characters that move the cursor are
left out. Tabs are expanded in the end.
-/

import BrowserPlan.Command.Emoji
import BrowserPlan.Command.Literal
import BrowserPlan.Command.Screen
import BrowserPlan.Command.Style
import BrowserPlan.Text.Width

namespace BrowserPlan.Markup

/-! ### Faults -/

/-- Why a marked-up text cannot be shown: a tag closes what is not open, the parameters of a
handler are no literal, or a part of a colour is no number. -/
inductive Fault where
  | unmatched (tag : Text) (position : Nat)
  | nothingOpen (position : Nat)
  | noLiteral (parameters : Text)
  | noNumber (part : Text)
  deriving DecidableEq, Repr

/-- A fault in words. -/
def Fault.message : Fault → Text
  | .unmatched tag position =>
      "closing tag '[" ++ tag ++ "]' at position " ++ Text.ofNat position ++
        " doesn't match any open tag"
  | .nothingOpen position =>
      "closing tag '[/]' at position " ++ Text.ofNat position ++ " has nothing to close"
  | .noLiteral parameters => "error parsing '" ++ parameters ++ "'"
  | .noNumber part => "invalid literal for int() with base 10: '" ++ part ++ "'"

/-! ### Pieces -/

/-- Whether a tag may start with the character. -/
def startsTag (char : Char) : Bool :=
  ('a' ≤ char && char ≤ 'z') || char = '#' || char = '/' || char = '@'

/-- The inside of a tag at the start of the text, behind its opening bracket. -/
def tag? (text : Text) : Option Text :=
  match text with
  | [] => none
  | char :: _ =>
      let inside := text.takeWhile fun char => char ≠ ']' && char ≠ '['
      if startsTag char && (text.drop inside.length).head? = some ']' then some inside else none

/-- A piece of a marked-up text: plain characters, or the inside of a tag and the position of
its bracket. -/
inductive Piece where
  | plain (chars : Text)
  | tag (position : Nat) (inside : Text)
  deriving DecidableEq, Repr

/-- The characters up to the next tag and the pieces from there on, after `slashes` backslashes
and passing over the next `skipped` characters. Backslashes before a tag count in pairs, and
an odd one takes its meaning away. -/
def split (slashes : Nat) : (position skipped : Nat) → Text → Text × List Piece
  | _, _, [] => (List.replicate slashes '\\', [])
  | position, skipped + 1, _ :: text => split slashes (position + 1) skipped text
  | position, 0, char :: text =>
      if char = '\\' then split (slashes + 1) (position + 1) 0 text
      else
        match (if char = '[' then tag? text else none) with
        | none =>
            let (chars, pieces) := split 0 (position + 1) 0 text
            (List.replicate slashes '\\' ++ char :: chars, pieces)
        | some inside =>
            let (chars, pieces) := split 0 (position + 1) (inside.length + 1) text
            let piece : Piece :=
              if slashes % 2 = 1 then .plain ('[' :: inside ++ [']']) else .tag position inside
            ([], .plain (List.replicate (slashes / 2) '\\') :: piece :: .plain chars :: pieces)

/-- The pieces of a marked-up text. -/
def pieces (text : Text) : List Piece :=
  let (chars, others) := split 0 0 0 text
  .plain chars :: others

/-! ### Tags -/

/-- A tag: its name, and its parameters if it has any. -/
structure Tag where
  name : Text
  parameters? : Option Text
  deriving DecidableEq, Repr

/-- Reads the inside of a tag. -/
def Tag.read (inside : Text) : Tag :=
  let name := inside.takeWhile (· ≠ '=')
  let parameters := inside.drop (name.length + 1)
  { name, parameters? := if name.length < inside.length then some parameters else none }

/-- Whether the parameters of a handler may be used: nothing but the name of a function, the
name with a literal in brackets, or a literal. -/
def isCall (parameters : Text) : Bool :=
  let call := Text.trim parameters
  let brackets := call.dropWhile fun char => Text.isWord char || char = '.'
  let isArguments :=
    brackets.head? = some '(' && brackets.getLast? = some ')' && !brackets.contains '\n'
  brackets = [] || Literal.accepts (if isArguments then brackets else call)

/-- Closes a tag; a handler must have parameters that may be used. -/
def Tag.close (tag : Tag) : Except Fault Unit :=
  match tag.name, tag.parameters? with
  | '@' :: _, some parameters =>
      if parameters = [] || isCall parameters then .ok () else .error (.noLiteral parameters)
  | _, _ => .ok ()

/-- The last open tag of a name, and the others that are open. -/
def lastOf? (name : Text) : List Tag → Option (Tag × List Tag)
  | [] => none
  | tag :: tags =>
      if tag.name = name then some (tag, tags)
      else (lastOf? name tags).map fun (found, others) => (found, tag :: others)

/-- The one form of the name of a tag. -/
def nameOf (name : Text) : Except Fault Text :=
  match Style.normalize name with
  | .ok form => .ok form
  | .error (.noNumber part) => .error (.noNumber part)
  | .error .unknown => .ok name

/-- The open tags, the last one first, after a tag at a position. -/
def turn (opened : List Tag) (position : Nat) (inside : Text) : Except Fault (List Tag) := do
  let tag := Tag.read inside
  match tag.name with
  | '/' :: rest =>
      let found? ←
        if Text.trim rest = [] then
          match opened with
          | [] => throw (.nothingOpen position)
          | last :: others => pure (some (last, others))
        else pure (lastOf? (← nameOf (Text.trim rest)) opened)
      match found? with
      | none => throw (.unmatched inside position)
      | some (found, others) =>
          found.close
          return others
  | name => return { tag with name := ← nameOf name } :: opened

/-! ### Showing -/

/-- Whether a character moves the cursor. -/
def movesCursor (char : Char) : Bool :=
  [7, 8, 11, 12, 13].contains char.toNat

/-- The text without the backslashes before brackets. -/
def unescape : Text → Text
  | [] => []
  | char :: text =>
      if char = '\\' && text.head? = some '[' then unescape text else char :: unescape text

section Pictures

variable (picture? : Text → Option Text)

/-- Plain characters as they are shown. -/
def showPlain (chars : Text) : Text :=
  (Emoji.replace picture? (unescape chars)).filter fun char => !movesCursor char

/-- Pieces as they are shown, with the given tags open. -/
def showPieces (opened : List Tag) : List Piece → Except Fault Text
  | [] => .ok []
  | .plain chars :: pieces => (showPieces opened pieces).map (showPlain picture? chars ++ ·)
  | .tag position inside :: pieces =>
      match turn opened position inside with
      | .ok opened => showPieces opened pieces
      | .error fault => .error fault

/-- A text as it is shown on a plain screen. -/
def show? (text : Text) : Except Fault Text :=
  (showPieces picture? [] (pieces text)).map (Text.expandTabs 0)

end Pictures

/-- A fault as a screen tells it. -/
def Fault.told (fault : Fault) : ScreenFault :=
  { kind :=
      match fault with
      | .noNumber _ => "ValueError"
      | _ => "MarkupError"
    message := fault.message }

/-- A plain screen that is as wide as need be and knows the given pictures by their names. The
cells of a table are shown one below the other. -/
def screen (picture? : Text → Option Text) : Screen where
  line text := ((show? picture? text).map (· ++ ['\n'])).mapError Fault.told
  table table :=
    ((table.columns.flatMap fun column => column.1 :: column.2).mapM (show? picture?)).map
      (·.flatMap (· ++ ['\n'])) |>.mapError Fault.told

end BrowserPlan.Markup
