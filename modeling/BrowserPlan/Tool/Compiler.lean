/-
This file says what comes of compiling a source.

The compiler is a program outside, of which only its behaviour is known: it may not be there,
fail to start, run too long, or end with a code and some output. Compiling is not essential, so
only a missing source and a code other than zero are errors; if the compiler is missing or too
slow, the step is skipped. Anything else that goes wrong, with the folder for the results, at the
start or in the output, is a failure of the work.
-/

import BrowserPlan.Work

namespace BrowserPlan

/-! ### The behaviour of a compiler -/

/-- How a run of the compiler goes. If it ends, what it wrote is text, with plain newlines, or
bytes that are no text. -/
inductive CompilerRun where
  | notStarted (fault : StartFault)
  | timeout
  | ended (code : Int) (output errors : Content)
  deriving DecidableEq, Repr

/-- A compiler: whether it is there, how a run goes if it is called with the given words, and the
folder for the results of the run, which may fail to be made or to be removed. -/
structure Compiler where
  isAvailable : Bool := false
  run : List Text → CompilerRun := fun _ => .ended 0 (.text []) (.text [])
  folder : Except FileFault Text := .ok "out"
  leftover? : Option FileFault := none

/-- The most bytes that a word of a call may have. -/
def wordLimit : Nat :=
  131071

/-- Why a word cannot be passed on to a program, if it cannot: it has no bytes, or a null character
would end it. -/
def wordFault? (word : Text) : Option StartFault :=
  match Utf8.nameFault? word with
  | some fault => some (.unencodable fault)
  | none => if word.contains '\x00' then some .nullCharacter else none

/-- Why the system starts no program with the given words, whatever the program, if it does not. -/
def refusal? (words : List Text) : Option StartFault :=
  (words.findSome? wordFault?).or
    (if words.any (wordLimit < Utf8.size ·) then some (.system 7 "Argument list too long")
    else none)

/-- How a program runs that the system starts: not at all if the words are refused. -/
def started (program : List Text → CompilerRun) (words : List Text) : CompilerRun :=
  match refusal? words with
  | some fault => .notStarted fault
  | none => program words

/-- The run for a call, with the folder for its results among the words. -/
def Compiler.runOf (compiler : Compiler) (call : CompilerCall) : Except FileFault CompilerRun :=
  compiler.folder.map fun folder => compiler.run (call.words folder)

/-! ### Outcomes -/

/-- What the step of compiling comes to. -/
inductive CompileStatus where
  | ok
  | error
  | skipped
  deriving DecidableEq, Repr

/-- The word for a status in a record. -/
def CompileStatus.word : CompileStatus → Text
  | .ok => "ok"
  | .error => "error"
  | .skipped => "skipped"

/-- What comes of compiling a source. -/
structure CompileOutcome where
  status : CompileStatus
  output : Text := []
  errors : List Text := []
  deriving DecidableEq, Repr

/-- The record of an outcome. -/
def CompileOutcome.toJson (outcome : CompileOutcome) : Json :=
  .object
    [("status", .string outcome.status.word), ("output", .string outcome.output),
      ("errors", Json.strings outcome.errors)]

/-- The first text that is not empty. -/
def firstFilled : List Text → Text → Text
  | [], last => last
  | text :: texts, last => if text = [] then firstFilled texts last else text

/-- The outcome if the compiler cannot be used. -/
def notFoundOutcome (binary : Text) : CompileOutcome :=
  { status := .skipped
    output := binary ++ " not found. Install a JDK to enable compilation." }

/-- The outcome of a run that ends with a code and two texts. -/
def endedOutcome (binary : Text) (code : Int) (output errors : Text) : CompileOutcome :=
  if code = 0 then
    let both := Text.join ['\n'] ([output, errors].filter (· ≠ []))
    { status := .ok, output := firstFilled [both] "Compilation successful." }
  else
    let ending : Text := binary ++ " exited with " ++ Text.ofInt code
    let raw := firstFilled [errors, output] ending
    { status := .error, output := raw, errors := Text.filledLines raw }

/-- Contents that are text; otherwise they cannot be decoded. -/
def Content.chars : Content → Except Failure Text
  | .text chars => .ok chars
  | .bytes _ fault => .error (.encoding fault)

/-- The outcome of a run. Of all that can go wrong at the start, only a program that is not found,
which has the number 2, is no failure. -/
def CompilerRun.outcome (run : CompilerRun) (binary : Text) (limit : Number) :
    Except Failure CompileOutcome :=
  match run with
  | .notStarted (.system 2 _) => .ok (notFoundOutcome binary)
  | .notStarted fault => .error (.start fault binary)
  | .timeout =>
      .ok
        { status := .skipped
          output := "Compilation timed out after " ++ limit.toText ++ "s." }
  | .ended code output errors => do
      let output ← output.chars
      let errors ← errors.chars
      return endedOutcome binary code output errors

/-- Compiles the source of a call, for which it has as long as the limit says. The folder for the
results is removed in the end, however the run went. -/
def Compiler.compile {Files : Type} [Disk Files] (compiler : Compiler) (call : CompilerCall)
    (limit : Number) : Work Files CompileOutcome := do
  if !(← Work.ask (Disk.exists? · (Path.ofText call.source))) then
    return { status := .error, errors := ["File not found: " ++ call.source] }
  else if !compiler.isAvailable then return notFoundOutcome call.binary
  else
    let run ← Work.ofExcept .file (compiler.runOf call)
    modify fun world => { world with calls := world.calls ++ [call] }
    match compiler.leftover? with
    | some fault => throw (.file fault)
    | none => Work.ofExcept id (run.outcome call.binary limit)

end BrowserPlan
