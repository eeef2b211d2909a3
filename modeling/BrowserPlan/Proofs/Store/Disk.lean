/-
This file says what is relied on of files that are read and written, and proves it of two kinds.

A path leads to a file, and a text that is written there is what this file then holds. Whether or
not writing succeeds, it is felt in no other file. Nothing is said of which paths lead to the same
file: in a file system without links these are the paths of one place, but with links a new file may
turn out to be an old one.
-/

import BrowserPlan.Proofs.Store.Place
import BrowserPlan.Store.Disk

namespace BrowserPlan

/-! ### Files by what they hold -/

/-- Files that keep to what reading and writing mean. -/
class LawfulDisk (Files : Type) [Disk Files] where
  /-- A file, however it is reached. -/
  File : Type
  /-- The file that a path leads to, whether it is there yet or not. -/
  fileOf : Files → Path → File
  /-- What a file holds, if it is there. -/
  contentOf : Files → File → Option Content
  contentOf_of_read {files : Files} {path : Path} {content : Content} :
    Disk.read files path = .ok content → contentOf files (fileOf files path) = some content
  contentOf_of_write {files : Files} {path : Path} {text : Text} :
    (Disk.write files path text).1 = .ok () →
      contentOf (Disk.write files path text).2 (fileOf files path) = some (.text text)
  contentOf_of_ne {files : Files} {path : Path} (text : Text) {file : File} :
    file ≠ fileOf files path →
      contentOf (Disk.write files path text).2 file = contentOf files file

namespace LawfulDisk

variable {Files : Type} [Disk Files] [LawfulDisk Files]

/-- The second files hold what the first do, apart from the file that a path leads to. -/
def SameBut (files after : Files) (path : Path) : Prop :=
  ∀ file, file ≠ fileOf files path → contentOf after file = contentOf files file

/-- The file of a path holds a text, and all others hold what they did. -/
structure Puts (files after : Files) (path : Path) (text : Text) : Prop where
  content : contentOf after (fileOf files path) = some (.text text)
  others : SameBut files after path

/-- Writing is felt in no other file, even if it fails. -/
theorem sameBut_write (files : Files) (path : Path) (text : Text) :
    SameBut files (Disk.write files path text).2 path :=
  fun _ other => contentOf_of_ne text other

/-- If writing succeeds, the file holds the text. -/
theorem puts_write {files : Files} {path : Path} {text : Text}
    (written : (Disk.write files path text).1 = .ok ()) :
    Puts files (Disk.write files path text).2 path text :=
  ⟨contentOf_of_write written, sameBut_write files path text⟩

end LawfulDisk

/-! ### File systems without links -/

namespace FileSystem

theorem contentAt_of_read {files : FileSystem} {path : Path} {content : Content}
    (isRead : files.read path = .ok content) :
    files.contentAt (files.placeOf path) = some content := by
  have leads := leadsTo_look files path
  rw [FileSystem.read] at isRead
  split at isRead
  · rename_i place found arrives
    rw [arrives] at leads
    obtain ⟨rfl, _, isFile⟩ := leads
    cases isRead
    rw [contentAt, isFile]
  · cases isRead
  · cases isRead
  · cases isRead

theorem disk_write_eq (files : FileSystem) (path : Path) (text : Text) :
    Disk.write files path text =
      match files.write path text with
      | .ok after => (.ok (), after)
      | .error fault => (.error fault, files) :=
  rfl

theorem contentAt_of_disk_write {files : FileSystem} {path : Path} {text : Text}
    (written : (Disk.write files path text).1 = .ok ()) :
    (Disk.write files path text).2.contentAt (files.placeOf path) = some (.text text) := by
  rw [disk_write_eq] at written ⊢
  cases done : files.write path text with
  | ok after => rw [(puts_of_write done).contentAt, if_pos rfl]
  | error fault =>
    rw [done] at written
    cases written

theorem contentAt_disk_write_of_ne (files : FileSystem) {path : Path} (text : Text) {place : Place}
    (other : place ≠ files.placeOf path) :
    (Disk.write files path text).2.contentAt place = files.contentAt place := by
  rw [disk_write_eq]
  cases done : files.write path text with
  | ok after => rw [(puts_of_write done).contentAt, if_neg other]
  | error fault => rfl

/-- One place is one file. -/
instance : LawfulDisk FileSystem where
  File := Place
  fileOf := placeOf
  contentOf := contentAt
  contentOf_of_read := contentAt_of_read
  contentOf_of_write := contentAt_of_disk_write
  contentOf_of_ne := contentAt_disk_write_of_ne _

end FileSystem

/-! ### File systems with links -/

/-- A file system in which some places are links to others. -/
structure LinkedFiles where
  files : FileSystem
  links : List (Place × Place)

namespace LinkedFiles

/-- The path of the place that a path leads to, over a link if there is one at its end. -/
def target (linked : LinkedFiles) (path : Path) : Path :=
  match linked.links.lookup (linked.files.placeOf path) with
  | some place => ⟨"/", place⟩
  | none => path

instance : Disk LinkedFiles where
  isFile linked path := linked.files.isFile (linked.target path)
  exists? linked path := linked.files.exists? (linked.target path)
  resolve linked path := Disk.resolve linked.files (linked.target path)
  read linked path := linked.files.read (linked.target path)
  write linked path text :=
    let written := Disk.write linked.files (linked.target path) text
    (written.1, { linked with files := written.2 })

/-- A link is the file that it leads to. -/
instance : LawfulDisk LinkedFiles where
  File := Place
  fileOf linked path := linked.files.placeOf (linked.target path)
  contentOf linked := linked.files.contentAt
  contentOf_of_read := FileSystem.contentAt_of_read
  contentOf_of_write := FileSystem.contentAt_of_disk_write
  contentOf_of_ne {linked _} := FileSystem.contentAt_disk_write_of_ne linked.files

end LinkedFiles

end BrowserPlan
