/-
This file is the command line.

A command works on a file system that is a value. Before it runs, the files and folders that
its words name, and those of the store, are read into such a value; afterwards the files that
the command has changed are written. A compiler cannot be started from here, so compiling is
always skipped, and the screen knows no pictures.
-/

import BrowserPlan.Command.Clock
import BrowserPlan.Command.Markup
import BrowserPlan.Command.Run
import Std.Time.DateTime.Timestamp

namespace BrowserPlan.CommandLine

/-- The parts of an absolute path. -/
def placeOf (path : String) : Place :=
  (Path.ofText path.toList).parts

/-- The variables of the environment that hold settings. -/
def settingVariables : List String :=
  ["BRIDGE_BASE_URL", "RESULTS_ROOT", "JAVAC_BIN", "COMPILE_TIMEOUT_S", "WAIT_STEP_SECONDS",
    "ACTION_ORDER", "MIN_TEST_METHODS", "MCP_TRANSPORT", "MCP_HOST", "MCP_PORT", "LOG_LEVEL",
    "WRITE_PLAN_FILES"]

/-- Reads the settings. -/
def readSettings : IO Settings := do
  let values ← settingVariables.filterMapM fun name => do
    return (← IO.getEnv name).map fun value => (name.toList, value.toList)
  return Settings.ofEnvironment fun name =>
    (values.find? fun pair => pair.1 = name).map Prod.snd

/-- Adds what is at a path: a file, or a folder with what it holds down to a depth. -/
def readPath (path : String) : (depth : Nat) → FileSystem → IO FileSystem
  | depth, files => do
      let here ← IO.currentDir
      let real := here / path
      if ← real.isDir then
        let files := files.addFolder (placeOf real.toString)
        match depth with
        | 0 => return files
        | depth + 1 =>
            let entries ← real.readDir
            entries.foldlM (fun files entry => readPath entry.path.toString depth files) files
      else if ← real.pathExists then
        let bytes ← IO.FS.readBinFile real
        return files.addFile (placeOf real.toString) (.ofBytes bytes.toList)
      else return files

/-- The folder that a path is in. -/
def folderOf (files : FileSystem) (path : Path) : String :=
  String.ofList (FileSystem.placeText (files.resolve path).dropLast)

/-- The paths that a word may name: the word itself, and the value behind an equals sign. -/
def pathsIn (word : String) : List Path :=
  let value := (word.toList.dropWhile (· ≠ '=')).drop 1
  [Path.ofText word.toList] ++ if value = [] then [] else [Path.ofText value]

/-- Reads the files and folders that the words of a command line name, and those of the
store. -/
def readFiles (settings : Settings) (words : List String) : IO FileSystem := do
  let here ← IO.currentDir
  let start := FileSystem.empty (placeOf here.toString)
  let named := words.flatMap pathsIn ++ [defaultResults, Path.ofText settings.resultsRoot]
  named.foldlM
    (fun files path => do
      let files ← readPath (folderOf start path) 0 files
      readPath (String.ofList (FileSystem.placeText (start.resolve path))) 2 files)
    start

/-- Writes the files that have changed. -/
def writeFiles (before after : FileSystem) : IO Unit :=
  (before.changes after).forM fun (place, content) => do
    IO.FS.createDirAll (String.ofList (FileSystem.placeText place.dropLast))
    match content with
    | .text chars =>
        IO.FS.writeFile (String.ofList (FileSystem.placeText place)) (String.ofList chars)
    | .bytes _ _ => return ()

/-- The moment at which the program runs. -/
def readClock : IO Text := do
  let moment := (← Std.Time.Timestamp.now).toNanosecondsSinceUnixEpoch.val.toNat
  return momentText (moment / 1000000000) (moment / 1000 % 1000000)

/-- How a crash is told. -/
def crashText : Crash → Text
  | .failure failure => failure.message
  | .screen fault => fault.message
  | .unencodable fault => fault.message

end BrowserPlan.CommandLine

open BrowserPlan CommandLine in
/-- Carries out a command line and gives its code. -/
def main (words : List String) : IO UInt32 := do
  let settings ← readSettings
  let files ← readFiles settings words
  let setup : Setup := { settings, clock := ← readClock }
  let screen := Markup.screen fun _ => none
  let (outcome, after) := runCommandLine setup screen (words.map String.toList) { files }
  writeFiles files after.files
  IO.print (String.ofList (outcome.table ++ outcome.output))
  if let some crash := outcome.crash? then
    IO.eprintln (String.ofList (crashText crash))
  return UInt32.ofNat outcome.code
