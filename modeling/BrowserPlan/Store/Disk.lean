/-
This file says what the tools need of files: to ask what is at a path, to read and to write.

Nothing is said of what a file is. A path may go over links, two paths may lead to one file, and
any operation may fail, in the words of the system.
-/

import BrowserPlan.Store.FileSystem

namespace BrowserPlan

/-- Files that can be looked for, read and written. -/
class Disk (Files : Type) where
  /-- Whether there is a file at a path. -/
  isFile : Files → Path → Except FileFault Bool
  /-- Whether there is anything at a path. -/
  exists? : Files → Path → Except FileFault Bool
  /-- The place that a path leads to, in its written form, whether anything is there or not. -/
  resolve : Files → Path → Except FileFault Text
  /-- The contents of the file at a path. -/
  read : Files → Path → Except FileFault Content
  /-- Writes a text that has bytes. If this fails, the files may have changed all the same. -/
  write : Files → Path → Text → Except FileFault Unit × Files

/-- A file system as a value: writing to it fails before anything is changed. -/
instance : Disk FileSystem where
  isFile := FileSystem.isFile
  exists? := FileSystem.exists?
  resolve files path := .ok (FileSystem.placeText (files.resolve path))
  read := FileSystem.read
  write files path text :=
    match files.write path text with
    | .ok after => (.ok (), after)
    | .error fault => (.error fault, files)

end BrowserPlan
