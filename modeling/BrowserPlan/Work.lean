/-
This file holds what can go wrong when work is done on files, and the form that such work
takes: it changes a world of files and may fail, and what was done before a failure stays
done.
-/

import BrowserPlan.Json.Parser
import BrowserPlan.Plan.Input
import BrowserPlan.Store.Disk

namespace BrowserPlan

/-! ### Failures -/

/-- Why a program cannot be started: the system refuses to, or a word of the call has no bytes or
holds a null character. -/
inductive StartFault where
  | system (number : Nat) (reason : Text)
  | nullCharacter
  | unencodable (fault : Utf8.HalfFault)
  deriving DecidableEq, Repr

/-- What is said if the program of a name cannot be started. -/
def StartFault.message (binary : Text) : StartFault → Text
  | .system number reason =>
      "[Errno " ++ Text.ofNat number ++ "] " ++ reason ++ ": " ++ Json.spellString binary
  | .nullCharacter => "embedded null byte"
  | .unencodable fault => fault.message

/-- Why work fails. -/
inductive Failure where
  | file (fault : FileFault)
  | encoding (fault : Utf8.Fault)
  | unencodable (fault : Utf8.HalfFault)
  | path (fault : Path.NoName)
  | json (fault : Json.Fault) (source : Text)
  | shape (fault : ShapeFault)
  | input (error : PlanInputError)
  | start (fault : StartFault) (binary : Text)

/-- A failure in words. -/
def Failure.message : Failure → Text
  | .file fault => fault.message
  | .encoding fault => fault.message
  | .unencodable fault => fault.message
  | .path fault => fault.message
  | .json fault source => fault.message source
  | .shape fault => fault.message
  | .input error => error.message
  | .start fault binary => fault.message binary

/-- Why no plan is made, as a failure of work. -/
def Failure.ofPlan : PlanFailure → Failure
  | .input error => .input error
  | .shape fault => .shape fault

/-! ### Work -/

/-- How the compiler is called: its name, where to look for libraries if anywhere else, and the
source. -/
structure CompilerCall where
  binary : Text
  classpath : Text
  source : Text
  deriving DecidableEq, Repr

/-- The words of a call that puts its results into the given folder. -/
def CompilerCall.words (call : CompilerCall) (outFolder : Text) : List Text :=
  let libraries : List Text := if call.classpath = [] then [] else ["-cp", call.classpath]
  call.binary :: ("-d" : Text) :: outFolder :: libraries ++ [call.source]

/-- What work changes: the files, and the list of calls of the compiler. -/
structure World (Files : Type := FileSystem) where
  files : Files
  calls : List CompilerCall := []

/-- Work on a world that may fail. -/
abbrev Work (Files : Type) := ExceptT Failure (StateM (World Files))

namespace Work

variable {Files Value : Type}

/-- Does work on a world: what comes of it, and the world after it. -/
def perform (work : Work Files Value) (world : World Files) :
    Except Failure Value × World Files :=
  work.run world

/-- Fails if something else failed. -/
def ofExcept {Fault : Type} (failure : Fault → Failure) : Except Fault Value → Work Files Value
  | .ok value => pure value
  | .error fault => throw (failure fault)

/-- Asks the files something. -/
def ask (question : Files → Except FileFault Value) : Work Files Value := do
  ofExcept .file (question (← get).files)

/-- Changes the files, unless that fails. -/
def change (operation : Files → Except FileFault Files) : Work Files Unit := do
  let files ← ask operation
  modify fun world => { world with files }

variable [Disk Files]

/-- Reads a text file; every line of it ends with a newline. -/
def readText (path : Path) : Work Files Text := do
  match ← ask (Disk.read · path) with
  | .text chars => return Text.withPlainNewlines chars
  | .bytes _ fault => throw (.encoding fault)

/-- Writes a text that has bytes. -/
def write (path : Path) (text : Text) : Work Files Unit := do
  let world ← get
  let (done, files) := Disk.write world.files path text
  set { world with files }
  ofExcept .file done

/-- Writes a text file. The file is opened first, which leaves it empty; then a text that has no
bytes fails. -/
def writeText (path : Path) (text : Text) : Work Files Unit :=
  match Utf8.halfFault? text with
  | none => write path text
  | some fault => do
      write path []
      throw (.unencodable fault)

end Work

end BrowserPlan
