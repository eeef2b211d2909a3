/-
This file decides whether the parameters of a handler are a literal.

A literal is a number, a string, one of a few words, or round or curly brackets with literals
in them. A number may have a sign, and an imaginary number may be added to a real one. What is
looked up, as the keys of a table are, must not be a set or a table and must not hold one.
Square brackets do not occur, because parameters stand between such.
-/

import BrowserPlan.Json.Parser
import BrowserPlan.Text.Word

namespace BrowserPlan.Literal

/-! ### What a literal is -/

/-- What matters of a literal to what it is part of: whether it is a number of some kind, and
otherwise whether it can be looked up. -/
inductive Shape where
  | real
  | imaginary
  | signed
  | other (isKey : Bool)
  deriving DecidableEq, Repr

/-- Whether a literal can be looked up. -/
def Shape.isKey : Shape → Bool
  | .other isKey => isKey
  | _ => true

/-! ### Blanks -/

/-- The text behind blanks and comments. Between brackets a line may end there; elsewhere only
if a backslash stands before its end. -/
def skipBlanks (inBrackets : Bool) : (inComment : Bool) → Text → Text
  | _, [] => []
  | inComment, char :: text =>
      if char = '\n' then
        if inBrackets then skipBlanks inBrackets false text else char :: text
      else if inComment || char = ' ' || char = '\t' || char = '\x0c' then
        skipBlanks inBrackets inComment text
      else if char = '#' then skipBlanks inBrackets true text
      else
        match char, text with
        | '\\', '\n' :: text => skipBlanks inBrackets false text
        | _, _ => char :: text

/-- Whether nothing but blanks, comments and ends of lines is left. -/
def atEnd (text : Text) : Bool :=
  skipBlanks true false text = []

/-! ### Numbers -/

/-- The digits at the start of a text, between which single underscores may stand, and what
follows them; there must be a digit. -/
def readDigits? (isDigit : Char → Bool) : Text → Option (Text × Text)
  | [] => none
  | char :: text =>
      if isDigit char then
        match text with
        | '_' :: rest =>
            match readDigits? isDigit rest with
            | some (digits, rest) => some (char :: digits, rest)
            | none => some ([char], text)
        | text =>
            match readDigits? isDigit text with
            | some (digits, rest) => some (char :: digits, rest)
            | none => some ([char], text)
      else none

/-- The digits of the base that a letter behind a zero names. -/
def baseDigit? (letter : Char) : Option (Char → Bool) :=
  match letter.toLower with
  | 'x' => some fun char => (Json.hexValue? char).isSome
  | 'o' => some fun char => '0' ≤ char && char ≤ '7'
  | 'b' => some fun char => char = '0' || char = '1'
  | _ => none

/-- The fraction behind a number, if there is one: whether it is there and what follows. -/
def readFraction (text : Text) : Bool × Text :=
  match text with
  | '.' :: rest =>
      match readDigits? Char.isDigit rest with
      | some (_, rest) => (true, rest)
      | none => (true, rest)
  | _ => (false, text)

/-- The exponent behind a number, if there is one: whether it is there and what follows. -/
def readExponent (text : Text) : Bool × Text :=
  match text with
  | letter :: rest =>
      let unsigned :=
        match rest with
        | sign :: digits => if sign = '+' || sign = '-' then digits else rest
        | [] => []
      match (if letter.toLower = 'e' then readDigits? Char.isDigit unsigned else none) with
      | some (_, rest) => (true, rest)
      | none => (false, text)
  | [] => (false, text)

/-- Reads a decimal number. A whole number must not start with a superfluous zero nor be too
long. -/
def readDecimal? (text : Text) : Option (Shape × Text) :=
  let (whole, rest) :=
    match readDigits? Char.isDigit text with
    | some (digits, rest) => (digits, rest)
    | none => ([], text)
  let (hasFraction, rest) := readFraction rest
  let (hasExponent, rest) := readExponent rest
  let startsWithDigit := (text.drop 1).head?.any Char.isDigit
  if whole = [] && !(hasFraction && startsWithDigit) then none
  else
    match rest with
    | letter :: others =>
        if letter.toLower = 'j' then some (.imaginary, others)
        else if hasFraction || hasExponent || isWhole whole then some (.real, rest)
        else none
    | [] => if hasFraction || hasExponent || isWhole whole then some (.real, rest) else none
where
  isWhole (digits : Text) : Bool :=
    (digits.head? ≠ some '0' || digits.all (· = '0')) && digits.length ≤ Text.digitLimit

/-- Reads a number; no word may go on behind it. -/
def readNumber? (text : Text) : Option (Shape × Text) :=
  let based : Option (Shape × Text) :=
    match text with
    | '0' :: letter :: rest => do
        let isDigit ← baseDigit? letter
        let (_, rest) ← readDigits? isDigit (if rest.head? = some '_' then rest.drop 1 else rest)
        return (.real, rest)
    | _ => none
  (based.or (readDecimal? text)).filter fun found => Text.atWordEnd found.2

/-! ### Strings -/

/-- The kind of a string: whether backslashes stand for themselves, and whether it is made of
bytes. -/
structure StringKind where
  raw : Bool
  bytes : Bool
  deriving DecidableEq, Repr

/-- The kinds by the letters before the quotes. -/
def stringKinds : List (Text × StringKind) :=
  [("", ⟨false, false⟩), ("u", ⟨false, false⟩), ("r", ⟨true, false⟩), ("b", ⟨false, true⟩),
    ("br", ⟨true, true⟩), ("rb", ⟨true, true⟩)]

/-- Whether the text starts with as many hexadecimal digits. -/
def hasHex (count : Nat) (text : Text) : Bool :=
  (text.take count).length = count && (text.take count).all fun char => (Json.hexValue? char).isSome

/-- Whether what follows a backslash and the letter is allowed there. -/
def isEscape (kind : StringKind) (letter : Char) (text : Text) : Bool :=
  if kind.raw then true
  else if letter = 'x' then hasHex 2 text
  else if kind.bytes then true
  else if letter = 'u' then hasHex 4 text
  else if letter = 'U' then
    hasHex 8 text && (text.take 3 = ("000" : Text) || text.take 4 = ("0010" : Text))
  else if letter = 'N' then
    match Text.after? "\x7b" text with
    | some name =>
        name.head? ≠ some '\x7d' && name.contains '\x7d'
    | none => false
  else true

/-- Reads the inside of a string up to its end; `skipped` characters belong to an escape. -/
def readInside? (kind : StringKind) (ending : Text) : (skipped : Nat) → Text → Option Text
  | _, [] => none
  | skipped + 1, _ :: text => readInside? kind ending skipped text
  | 0, char :: text =>
      if Text.opensWith ending (char :: text) then some ((char :: text).drop ending.length)
      else if kind.bytes && 128 ≤ char.toNat then none
      else if char = '\\' then
        match text with
        | [] => none
        | letter :: rest =>
            if kind.bytes && 128 ≤ letter.toNat then none
            else if isEscape kind letter rest then readInside? kind ending 1 text
            else none
      else if char = '\n' && ending.length = 1 then none
      else readInside? kind ending 0 text

/-- Reads a string between one or three quotes. -/
def readQuoted? (kind : StringKind) (quote : Char) (text : Text) : Option Text :=
  let long := [quote, quote, quote]
  match Text.after? long text with
  | some inside => readInside? kind long 0 inside
  | none => (Text.after? [quote] text).bind (readInside? kind [quote] 0)

/-- Reads a string with the letters before it: whether it is made of bytes, and what follows. -/
def readString? (text : Text) : Option (Bool × Text) := do
  let letters := text.takeWhile Char.isAlpha
  let kind ← (stringKinds.find? fun known => known.1 = Text.lowercaseAscii letters).map Prod.snd
  match text.drop letters.length with
  | [] => none
  | quote :: _ =>
      if quote = '\'' || quote = '"' then
        (readQuoted? kind quote (text.drop letters.length)).map fun rest => (kind.bytes, rest)
      else none

/-- Reads strings one behind the other, which must be of one kind. -/
def readStrings? (inBrackets : Bool) : (fuel : Nat) → Text → Option (Shape × Text)
  | 0, _ => none
  | fuel + 1, text => do
      let (bytes, rest) ← readString? text
      let next := skipBlanks inBrackets false rest
      match readString? next with
      | none =>
          if next.head? = some '\'' || next.head? = some '"' then none
          else some (.other true, rest)
      | some (nextBytes, _) =>
          if nextBytes = bytes then readStrings? inBrackets fuel next else none

/-! ### Words -/

/-- Reads one of the words that are literals; an empty set is written as a word with
brackets. -/
def readWord? (text : Text) : Option (Shape × Text) :=
  let words : List Text := ["True", "False", "None"]
  match words.findSome? fun word => Text.keyword? word text with
  | some rest => some (.other true, rest)
  | none =>
      match Text.after? "..." text with
      | some rest => some (.other true, rest)
      | none => do
          let rest ← Text.keyword? "set" text
          let rest ← Text.after? "(" (skipBlanks true false rest)
          let rest ← Text.after? ")" (skipBlanks true false rest)
          return (.other false, rest)

/-! ### Literals -/

/-- The most brackets that may lie in each other. -/
def bracketLimit : Nat :=
  200

/-- The shape of a literal with a sign before it: only numbers have signs. -/
def Shape.withSign? : Shape → Option Shape
  | .real => some .signed
  | .imaginary => some (.other true)
  | _ => none

/-- The shape of a sum: an imaginary number is added to a real one. -/
def Shape.plus? : (left right : Shape) → Option Shape
  | .real, .imaginary | .signed, .imaginary => some (.other true)
  | _, _ => none

/-- Whether a character is a sign of a number. -/
def isSign (char : Char) : Bool :=
  char = '+' || char = '-'

/-- The shape of round brackets with the given literals. -/
def tupleOf (items : List Shape) : Shape :=
  .other (items.all Shape.isKey)

mutual

/-- Reads a literal in as many brackets; `fuel` bounds the depth of the recursion. -/
def readLiteral? : (fuel brackets : Nat) → Text → Option (Shape × Text)
  | 0, _, _ => none
  | fuel + 1, brackets, text => do
      let (left, rest) ← readSigned? fuel brackets text
      match skipBlanks (brackets ≠ 0) false rest with
      | sign :: next =>
          if isSign sign then
            let (right, rest) ← readAtom? fuel brackets (skipBlanks (brackets ≠ 0) false next)
            return (← left.plus? right, rest)
          else return (left, rest)
      | [] => return (left, rest)

/-- Reads a literal without addition. -/
def readSigned? : (fuel brackets : Nat) → Text → Option (Shape × Text)
  | 0, _, _ => none
  | fuel + 1, brackets, text =>
      match text with
      | sign :: rest =>
          if isSign sign then do
            let (shape, rest) ← readAtom? fuel brackets (skipBlanks (brackets ≠ 0) false rest)
            return (← shape.withSign?, rest)
          else readAtom? fuel brackets text
      | [] => none

/-- Reads a literal without addition and sign. -/
def readAtom? : (fuel brackets : Nat) → Text → Option (Shape × Text)
  | 0, _, _ => none
  | fuel + 1, brackets, text =>
      match text with
      | '(' :: rest =>
          if bracketLimit ≤ brackets then none
          else
            match skipBlanks true false rest with
            | ')' :: rest => some (.other true, rest)
            | rest => do
                let (first, rest) ← readLiteral? fuel (brackets + 1) rest
                match skipBlanks true false rest with
                | ')' :: rest => return (first, rest)
                | ',' :: rest =>
                    let (others, rest) ←
                      readItems? fuel (brackets + 1) ')' (skipBlanks true false rest)
                    return (tupleOf (first :: others), rest)
                | _ => none
      | '\x7b' :: rest =>
          if bracketLimit ≤ brackets then none
          else
            match skipBlanks true false rest with
            | '\x7d' :: rest => some (.other false, rest)
            | rest => do
                let (first, behind) ← readLiteral? fuel (brackets + 1) rest
                match skipBlanks true false behind with
                | ':' :: _ =>
                    let rest ← readPairs? fuel (brackets + 1) rest
                    return (.other false, rest)
                | ',' :: rest =>
                    let (others, rest) ←
                      readItems? fuel (brackets + 1) '\x7d' (skipBlanks true false rest)
                    if (first :: others).all Shape.isKey then return (.other false, rest) else none
                | '\x7d' :: rest => if first.isKey then return (.other false, rest) else none
                | _ => none
      | text =>
          (readStrings? (brackets ≠ 0) (text.length + 1) text).or
            ((readNumber? text).or (readWord? text))

/-- Reads literals with commas between them up to a closing bracket. -/
def readItems? : (fuel brackets : Nat) → (closing : Char) → Text → Option (List Shape × Text)
  | 0, _, _, _ => none
  | fuel + 1, brackets, closing, text =>
      match text with
      | [] => none
      | char :: rest =>
          if char = closing then some ([], rest)
          else do
            let (first, rest) ← readLiteral? fuel brackets text
            match skipBlanks true false rest with
            | ',' :: rest =>
                let (others, rest) ← readItems? fuel brackets closing (skipBlanks true false rest)
                return (first :: others, rest)
            | char :: rest => if char = closing then return ([first], rest) else none
            | [] => none

/-- Reads the keys of a table and their values up to the closing bracket. -/
def readPairs? : (fuel brackets : Nat) → Text → Option Text
  | 0, _, _ => none
  | fuel + 1, brackets, text =>
      match text with
      | '\x7d' :: rest => some rest
      | text => do
          let (key, rest) ← readLiteral? fuel brackets text
          let rest ← Text.after? ":" (skipBlanks true false rest)
          let (_, rest) ← readLiteral? fuel brackets (skipBlanks true false rest)
          if !key.isKey then none
          else
            match skipBlanks true false rest with
            | ',' :: rest => readPairs? fuel brackets (skipBlanks true false rest)
            | '\x7d' :: rest => some rest
            | _ => none

end

/-- Whether literals with commas between them make up the text. -/
def isList : (fuel : Nat) → Text → Bool
  | 0, _ => false
  | fuel + 1, text =>
      match readLiteral? (4 * text.length + 4) 0 text with
      | none => false
      | some (_, rest) =>
          match skipBlanks false false rest with
          | ',' :: rest => atEnd rest || isList fuel (skipBlanks false false rest)
          | rest => atEnd rest

/-- Whether a text is a literal, or several with commas between them. -/
def accepts (text : Text) : Bool :=
  !text.contains '\x00' && isList (text.length + 1) (skipBlanks false false text)

end BrowserPlan.Literal
