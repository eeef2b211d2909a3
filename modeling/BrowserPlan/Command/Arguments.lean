/-
This file reads the words of a command line.

The first word that is no option names the command. A command takes arguments in order and
options anywhere between them; an option has its value behind an equals sign or as the next
word, and if it is given twice the last value counts. Behind two hyphens every word is an
argument. A command line that is not understood is a fault of usage.
-/

import BrowserPlan.Store.Path
import BrowserPlan.Text.Digit

namespace BrowserPlan

/-! ### Faults -/

/-- Why a command line is not carried out. -/
inductive UsageFault where
  | help
  | noCommand
  | unknownCommand (name : Text)
  | unknownOption (name : Text)
  | noValue (option : Text)
  | missing (name : Text)
  | surplus (argument : Text)
  | noNumber (value : Text)
  | noPath (value : Text)
  deriving DecidableEq, Repr

/-! ### Words -/

/-- The words of a command: its arguments and the values of its options. -/
structure Words where
  arguments : List Text := []
  options : List (Text × Text) := []
  deriving DecidableEq, Repr

/-- The words with one more argument in front. -/
def Words.addArgument (words : Words) (argument : Text) : Words :=
  { words with arguments := argument :: words.arguments }

/-- The words with one more option in front. -/
def Words.addOption (words : Words) (name value : Text) : Words :=
  { words with options := (name, value) :: words.options }

/-- The option that asks how a command is used. -/
def helpOption : Text :=
  "--help"

/-- Whether a word is an option. -/
def isOption (word : Text) : Bool :=
  1 < word.length && word.head? = some '-'

/-- Sorts words into arguments and options, of which the given ones take a value. -/
def Words.read (known : List Text) : List Text → Except UsageFault Words
  | [] => .ok {}
  | word :: words =>
      if word = ("--" : Text) then .ok { arguments := words }
      else if !isOption word then (Words.read known words).map (·.addArgument word)
      else if word = helpOption then (Words.read known words).map (·.addOption helpOption [])
      else
        let name := word.takeWhile (· ≠ '=')
        if !known.contains name then .error (.unknownOption word)
        else if name.length < word.length then
          (Words.read known words).map (·.addOption name (word.drop (name.length + 1)))
        else
          match words with
          | [] => .error (.noValue name)
          | value :: words => (Words.read known words).map (·.addOption name value)

/-- The last value of an option. -/
def Words.option? (words : Words) (name : Text) : Option Text :=
  (words.options.reverse.find? fun option => option.1 = name).map Prod.snd

/-! ### Commands -/

/-- What a command line asks for. -/
inductive Command where
  | checkSyntax (source : Path)
  | compile (source : Path) (classpath : Text)
  | coverage (report : Path) (feature : Text)
  | extract (source : Path) (method? order? : Option Text) (out? : Option Path)
  | plan (input : Path) (baseUrl? : Option Text)
  | exportResults (results : Path) (root? : Option Path)
  | check (root? : Option Path) (workers : Int)
  deriving DecidableEq, Repr

/-- The words of a command, unless they ask how it is used or there are too many. -/
def commandWords (known : List Text) (most : Nat) (words : List Text) :
    Except UsageFault Words := do
  let words ← Words.read known words
  if (words.option? helpOption).isSome then throw .help
  match words.arguments.drop most with
  | [] => return words
  | argument :: _ => throw (.surplus argument)

/-- Reads a word as a path, in which there must be no null character. -/
def readPath (word : Text) : Except UsageFault Path :=
  if word.contains '\x00' then .error (.noPath word) else .ok (Path.ofText word)

/-- Reads a word as a path, if it is given. -/
def readPath? : Option Text → Except UsageFault (Option Path)
  | none => .ok none
  | some word => (readPath word).map some

/-- The path that a command cannot do without. -/
def Words.path (words : Words) (name : Text) : Except UsageFault Path :=
  match words.arguments with
  | [] => .error (.missing name)
  | argument :: _ => readPath argument

/-- The path that a command may be given. -/
def Words.path? (words : Words) : Except UsageFault (Option Path) :=
  readPath? words.arguments.head?

/-- Where the results of an evaluation are unless it is said. -/
def defaultResults : Path :=
  Path.ofText "results/evaluation-results.json"

/-- Reads the words behind the name of a command. -/
def Command.ofWords (name : Text) (words : List Text) : Except UsageFault Command :=
  if name = ("syntax" : Text) then do
    let words ← commandWords [] 1 words
    return .checkSyntax (← words.path "JAVA_PATH")
  else if name = ("compile" : Text) then do
    let words ← commandWords ["--classpath"] 1 words
    return .compile (← words.path "JAVA_PATH") ((words.option? "--classpath").getD [])
  else if name = ("coverage" : Text) then do
    let words ← commandWords ["--feature"] 1 words
    match words.option? "--feature" with
    | some feature => return .coverage (← words.path "TXT_PATH") feature
    | none => throw (.missing "--feature")
  else if name = ("extract" : Text) then do
    let words ← commandWords ["--test-name", "--order", "--out"] 1 words
    return .extract (← words.path "JAVA_PATH") (words.option? "--test-name")
      (words.option? "--order") (← readPath? (words.option? "--out"))
  else if name = ("plan" : Text) then do
    let words ← commandWords ["--base-url"] 1 words
    return .plan (← words.path "INPUT_PATH") (words.option? "--base-url")
  else if name = ("export" : Text) then do
    let words ← commandWords ["--out-dir"] 1 words
    return .exportResults ((← words.path?).getD defaultResults)
      (← readPath? (words.option? "--out-dir"))
  else if name = ("check" : Text) then do
    let words ← commandWords ["--workers"] 1 words
    let root? ← words.path?
    match words.option? "--workers" with
    | none => return .check root? 4
    | some value =>
        match Text.toInt? value with
        | some workers => return .check root? workers
        | none => throw (.noNumber value)
  else throw (.unknownCommand name)

/-- Whether a word asks for more output. -/
def isVerbose (word : Text) : Bool :=
  word = ("--verbose" : Text) || (isOption word && (word.drop 1).all (· = 'v'))

/-- Reads the words of a command line. -/
def Command.read : List Text → Except UsageFault Command
  | [] => .error .noCommand
  | word :: words =>
      if word = ("--" : Text) then
        match words with
        | [] => .error .noCommand
        | name :: words => Command.ofWords name words
      else if !isOption word then Command.ofWords word words
      else if word = helpOption then .error .help
      else if isVerbose word then Command.read words
      else .error (.unknownOption word)

end BrowserPlan
