/-
This file holds paths: how places in a file system are named.

A path is a root, which is empty for a path from the current folder, and its parts. Empty
parts and parts that are a single point say nothing and are left out when a path is read, so a
path has one written form. Two points are a part like any other; what they mean is decided
where the path is followed.
-/

import BrowserPlan.Json.Spelling

namespace BrowserPlan

/-- A path: its root and its parts. -/
structure Path where
  root : Text
  parts : List Text
  deriving DecidableEq, Repr

namespace Path

/-! ### Reading and writing -/

/-- Whether a part says something. -/
def isPart (part : Text) : Bool :=
  part ≠ [] && part ≠ ['.']

/-- The root of a path that starts with the given number of slashes: two are a root of their
own, and any other number from one on is the usual root. -/
def rootOf (slashes : Nat) : Text :=
  if slashes = 0 then [] else if slashes = 2 then ['/', '/'] else ['/']

/-- Reads a path; empty parts and single points in it do not count. -/
def ofText (text : Text) : Path :=
  { root := rootOf (text.takeWhile (· = '/')).length
    parts := (Text.piecesAt (· = '/') text).filter isPart }

/-- The written form; a path without root and parts is the current folder. -/
def toText (path : Path) : Text :=
  if path.root = [] && path.parts = [] then ['.'] else path.root ++ Text.join ['/'] path.parts

/-- Whether the path starts at the root of the file system. -/
def isAbsolute (path : Path) : Bool :=
  path.root ≠ []

/-- The path that leads on from this one. -/
def append (path next : Path) : Path :=
  if next.isAbsolute then next else { path with parts := path.parts ++ next.parts }

/-- The path one part on; a part that says nothing leads nowhere. -/
def child (path : Path) (part : Text) : Path :=
  path.append { root := [], parts := [part].filter isPart }

/-! ### Names -/

/-- The last part. -/
def name (path : Path) : Text :=
  path.parts.getLast?.getD []

/-- A name without its last suffix, and the suffix with its point. The point must stand between
other characters. -/
def splitName (name : Text) : Text × Text :=
  let after := name.reverse.takeWhile (· ≠ '.')
  match name.reverse.dropWhile (· ≠ '.') with
  | '.' :: before =>
      if before = [] || after = [] then (name, []) else (before.reverse, '.' :: after.reverse)
  | _ => (name, [])

/-- The name without its last suffix. -/
def stem (path : Path) : Text :=
  (splitName path.name).1

/-- The last suffix of the name, with its point. -/
def suffix (path : Path) : Text :=
  (splitName path.name).2

/-- A path has no name that could be changed. -/
structure NoName where
  path : Path
  deriving DecidableEq, Repr

/-- A fault in words. -/
def NoName.message (fault : NoName) : Text :=
  "PosixPath(" ++ Json.spellString fault.path.toText ++ ") has an empty name"

/-- The path with another name. -/
def withName (path : Path) (name : Text) : Except NoName Path :=
  if path.name = [] then .error ⟨path⟩
  else .ok { path with parts := path.parts.dropLast ++ [name] }

/-- The path with another suffix. -/
def withSuffix (path : Path) (suffix : Text) : Except NoName Path :=
  path.withName (path.stem ++ suffix)

/-- Where the plan for a source or a document at the path is kept: beside it. -/
def planPath (path : Path) : Except NoName Path :=
  path.withName (path.stem ++ ".playwright-plan.json")

end Path

end BrowserPlan
