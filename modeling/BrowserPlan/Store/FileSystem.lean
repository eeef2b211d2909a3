/-
This file holds file systems as values: which folders and files there are, and what the files
hold. There are no links in them: one place is one file. What may go wrong is told for all file
systems, also in the words of the system.

A place is given by the parts that lead to it from the root. A file holds either text or bytes
that are no text, so reading back what was written needs no conversion. Following a path walks
from place to place; two points lead to the folder above, and every part before the last must
be a folder that is there. The written form of a path and each of its parts must not be too
long.
-/

import BrowserPlan.Store.Path
import BrowserPlan.Text.Lines
import BrowserPlan.Text.Utf8

namespace BrowserPlan

/-! ### Places and contents -/

/-- A place: the parts that lead to it from the root. -/
abbrev Place := List Text

/-- What a file holds: text, or bytes that are no text and the reason why. -/
inductive Content where
  | text (chars : Text)
  | bytes (bytes : List UInt8) (fault : Utf8.Fault)
  deriving DecidableEq, Repr

/-- What a file of the given bytes holds. -/
def Content.ofBytes (bytes : List UInt8) : Content :=
  match Utf8.decode bytes with
  | .ok chars => .text chars
  | .error fault => .bytes bytes fault

/-- What is at a place. -/
inductive Entry where
  | folder
  | file (content : Content)
  deriving DecidableEq, Repr

/-- A file system: the current folder, and what is at each place. -/
structure FileSystem where
  here : Place
  entries : List (Place × Entry)
  deriving DecidableEq, Repr

/-! ### Faults -/

/-- Why an operation on a file fails. The last case is for whatever else the system may say. -/
inductive FileProblem where
  | missing
  | exists
  | notFolder
  | isFolder
  | longName
  | nullCharacter
  | unencodable (fault : Utf8.HalfFault)
  | manyFolders
  | system (number : Nat) (reason : Text)
  deriving DecidableEq, Repr

/-- A failed operation and the path that it was given. -/
structure FileFault where
  problem : FileProblem
  path : Path
  deriving DecidableEq, Repr

/-- A fault in words. -/
def FileFault.message (fault : FileFault) : Text :=
  let numbered (number : Nat) (problem : Text) : Text :=
    "[Errno " ++ Text.ofNat number ++ "] " ++ problem ++ ": " ++
      Json.spellString fault.path.toText
  match fault.problem with
  | .missing => numbered 2 "No such file or directory"
  | .exists => numbered 17 "File exists"
  | .notFolder => numbered 20 "Not a directory"
  | .isFolder => numbered 21 "Is a directory"
  | .longName => numbered 36 "File name too long"
  | .nullCharacter => "embedded null byte"
  | .unencodable fault => fault.message
  | .system number reason => numbered number reason
  | .manyFolders => "maximum recursion depth exceeded while calling a Python object"

namespace FileSystem

/-! ### Looking -/

/-- Whether two places are one. The numbers of their parts are compared first, which soon tells a
folder from those on the way to it. -/
def isSame (place other : Place) : Bool :=
  place.length == other.length && place == other

theorem isSame_iff (place other : Place) : isSame place other = true ↔ place = other := by
  constructor
  · intro same
    rw [isSame, Bool.and_eq_true] at same
    exact eq_of_beq same.2
  · rintro rfl
    simp [isSame]

/-- What is at a place; the root is a folder. -/
def entry? (files : FileSystem) (place : Place) : Option Entry :=
  if place = [] then some .folder
  else (files.entries.find? fun entry => isSame entry.1 place).map Prod.snd

/-- The file system with an entry put at a place. -/
def put (files : FileSystem) (place : Place) (entry : Entry) : FileSystem :=
  { files with entries := replace files.entries }
where
  replace : List (Place × Entry) → List (Place × Entry)
    | [] => [(place, entry)]
    | (other, old) :: entries =>
        if isSame other place then (place, entry) :: entries
        else (other, old) :: replace entries

/-- The most bytes that a part of a path may have. -/
def nameLimit : Nat :=
  255

/-- The most bytes that the written form of a path may have. -/
def pathLimit : Nat :=
  4095

/-- Where a path leads: to a folder, to a file, to a place in a folder where nothing is, or
nowhere. It is missing if a folder on the way is not there. -/
inductive Arrival where
  | folder (place : Place)
  | file (place : Place) (content : Content)
  | vacant (place : Place)
  | refused (problem : FileProblem)
  deriving DecidableEq, Repr

/-- Follows parts from a folder on. -/
def follow (files : FileSystem) (place : Place) : List Text → Arrival
  | [] => .folder place
  | part :: parts =>
      if part = ("..".toList) then follow files place.dropLast parts
      else if nameLimit < Utf8.size part then .refused .longName
      else
        match files.entry? (place ++ [part]) with
        | some .folder => follow files (place ++ [part]) parts
        | some (.file content) =>
            if parts = [] then .file (place ++ [part]) content else .refused .notFolder
        | none => if parts = [] then .vacant (place ++ [part]) else .refused .missing

/-- The place at which a path starts. -/
def origin (files : FileSystem) (path : Path) : Place :=
  if path.isAbsolute then [] else files.here

/-- What is wrong with the written form of a path, if anything is. -/
def pathProblem? (path : Path) : Option FileProblem :=
  let text := path.toText
  match Utf8.nameFault? text with
  | some fault => some (.unencodable fault)
  | none =>
      if text.contains '\x00' then some .nullCharacter
      else if pathLimit < Utf8.size text then some .longName
      else none

/-- Follows a path. -/
def look (files : FileSystem) (path : Path) : Arrival :=
  match pathProblem? path with
  | some problem => .refused problem
  | none => files.follow (files.origin path) path.parts

/-- The answer to a question about what is at a path. A path that leads nowhere has an answer
too, unless it or a part of it is too long. -/
def answer {Value : Type} (files : FileSystem) (path : Path) (nowhere : Value)
    (found : Arrival → Value) : Except FileFault Value :=
  match files.look path with
  | .refused .longName => .error ⟨.longName, path⟩
  | .refused _ => .ok nowhere
  | arrival => .ok (found arrival)

/-- Whether there is a file at the path. -/
def isFile (files : FileSystem) (path : Path) : Except FileFault Bool :=
  files.answer path false fun
    | .file _ _ => true
    | _ => false

/-- Whether there is anything at the path. -/
def exists? (files : FileSystem) (path : Path) : Except FileFault Bool :=
  files.answer path false fun
    | .folder _ | .file _ _ => true
    | _ => false

/-- The place that a path names, whether anything is there or not. -/
def resolve (files : FileSystem) (path : Path) : Place :=
  path.parts.foldl
    (fun place part => if part = ("..".toList) then place.dropLast else place ++ [part])
    (files.origin path)

/-- The written form of a place. -/
def placeText (place : Place) : Text :=
  '/' :: Text.join ['/'] place

/-! ### Reading and writing -/

/-- The contents of the file at a path. -/
def read (files : FileSystem) (path : Path) : Except FileFault Content :=
  match files.look path with
  | .file _ content => .ok content
  | .folder _ => .error ⟨.isFolder, path⟩
  | .vacant _ => .error ⟨.missing, path⟩
  | .refused problem => .error ⟨problem, path⟩

/-- The file system with a text written to a path. -/
def write (files : FileSystem) (path : Path) (text : Text) : Except FileFault FileSystem :=
  match files.look path with
  | .file place _ | .vacant place => .ok (files.put place (.file (.text text)))
  | .folder _ => .error ⟨.isFolder, path⟩
  | .refused problem => .error ⟨problem, path⟩

/-! ### Folders -/

/-- The most folders that are made on the way to another. -/
def folderLimit : Nat :=
  970

/-- Goes from a folder along the given parts as far as there are folders: the folder reached,
the parts passed, last one first, and the parts left. -/
def descend (files : FileSystem) (place : Place) (passed : List Text) :
    List Text → Place × List Text × List Text
  | [] => (place, passed, [])
  | part :: parts =>
      if part = ("..".toList) then descend files place.dropLast (part :: passed) parts
      else
        match files.entry? (place ++ [part]) with
        | some .folder => descend files (place ++ [part]) (part :: passed) parts
        | _ => (place, passed, part :: parts)

/-- The file system with a folder for each of the given parts, one in the other. A fault names
the path up to the part where it occurs. -/
def makeFrom (files : FileSystem) (root : Text) (place : Place) (passed : List Text) :
    List Text → Except FileFault FileSystem
  | [] => .ok files
  | part :: parts =>
      let path : Path := ⟨root, (part :: passed).reverse⟩
      if part = ("..".toList) then makeFrom files root place.dropLast (part :: passed) parts
      else if nameLimit < Utf8.size part then .error ⟨.longName, path⟩
      else
        match files.entry? (place ++ [part]) with
        | some .folder => makeFrom files root (place ++ [part]) (part :: passed) parts
        | some (.file _) => .error ⟨.exists, path⟩
        | none =>
            let files := { files with entries := (place ++ [part], .folder) :: files.entries }
            makeFrom files root (place ++ [part]) (part :: passed) parts

/-- The file system with a folder at a path and with the folders on the way to it. -/
def makeFolders (files : FileSystem) (path : Path) : Except FileFault FileSystem :=
  match files.look path with
  | .folder _ => .ok files
  | .file _ _ => .error ⟨.exists, path⟩
  | .vacant place => .ok (files.put place .folder)
  | .refused .missing =>
      let (place, passed, left) := files.descend (files.origin path) [] path.parts
      if folderLimit < left.length then .error ⟨.manyFolders, path⟩
      else files.makeFrom path.root place passed left
  | .refused problem => .error ⟨problem, path⟩

/-! ### Making and comparing file systems -/

/-- All places on the way to a place, itself included. -/
def wayTo (place : Place) : List Place :=
  (List.range place.length).map fun count => place.take (count + 1)

/-- The file system with a folder at a place and at all places on the way to it. -/
def addFolder (files : FileSystem) (place : Place) : FileSystem :=
  (wayTo place).foldl (fun files place => files.put place .folder) files

/-- The file system with a file at a place, in folders that are made if need be. -/
def addFile (files : FileSystem) (place : Place) (content : Content) : FileSystem :=
  (files.addFolder place.dropLast).put place (.file content)

/-- A file system with nothing but the current folder. -/
def empty (here : Place) : FileSystem :=
  addFolder { here, entries := [] } here

/-- The files that the second file system has and the first has not, or not so. -/
def changes (before after : FileSystem) : List (Place × Content) :=
  after.entries.filterMap fun (place, entry) =>
    match entry with
    | .file content =>
        if before.entry? place = some (.file content) then none else some (place, content)
    | .folder => none

end FileSystem

end BrowserPlan
