import Recital.Catalogue.Basic
import Recital.Settings

/-!
# The disk

* `Content` : what a file holds.
* `Location` : the names from the root to a file or folder.
* `Path.names` : the names that a path goes through.
* `Disk` : the files and folders by location, and the working folder, where relative paths start.
* `Disk.lookup` : what a path leads to, when every folder on the way exists.
* `Disk.source` : what a reader of text finds there.
* `Disk.makeFolders?` : the disk after all folders on a way have been made.
* `Disk.resolve` : the location that a path names when each step back only strikes the name before it.
* `Disk.paths` : the files below the working folder.
-/

set_option autoImplicit false

namespace Recital

/-- What a file holds. -/
inductive Content where
  | bytes (bytes : List UInt8)
  | database (db : Catalogue)
  /-- Nothing, and nothing stays that is written to it. -/
  | sink
  deriving DecidableEq, Repr, Inhabited

/-- The names from the root to a file or folder. -/
abbrev Location := List String

namespace Path

/-- The pieces of a path between slashes. -/
def pieces (path : String) : List String :=
  (Text.splitAt '/' path.toList).map String.ofList

/-- The names that a path goes through. -/
def names (path : String) : List String :=
  (pieces path).filter fun name => name ≠ "" ∧ name ≠ "."

/-- Whether a path starts at the root. -/
def isAbsolute (path : String) : Bool :=
  path.toList.head? = some '/'

/-- Whether a path can only name a folder. -/
def wantsFolder (path : String) : Bool :=
  match (pieces path).getLast? with
  | some name => name = "" || name = "."
  | none => true

/-- The greatest number of bytes of a name. -/
def nameLimit : Nat := 255

/-- Whether something can have a name: it is short enough and has no NUL. -/
def isName (name : String) : Bool :=
  name.utf8ByteSize ≤ nameLimit && !name.toList.contains '\x00'

end Path

/-- The files and folders of a disk. -/
structure Disk where
  files : List (Location × Content) := []
  /-- Folders that are there whether or not something is in them. -/
  folders : List Location := []
  /-- Folders in which nothing can be made. -/
  closed : List Location := []
  /-- The working folder. -/
  here : Location := []
  deriving Repr, Inhabited

namespace Disk

/-- The location where a path starts. -/
def start (disk : Disk) (path : String) : Location :=
  if Path.isAbsolute path then [] else disk.here

/-- The location that a path names when each step back only strikes the name before it.  Nothing is
above the root. -/
def resolve (disk : Disk) (path : String) : Location :=
  (Path.names path).foldl
    (fun location name => if name = ".." then location.dropLast else location ++ [name])
    (disk.start path)

/-- The content of a file. -/
def file? (disk : Disk) (location : Location) : Option Content :=
  (disk.files.find? fun f => f.1 = location).map Prod.snd

/-- Whether a location is a folder: it was made, or something is in it. -/
def isFolder (disk : Disk) (location : Location) : Bool :=
  location.isPrefixOf disk.here || disk.folders.any (fun l => location.isPrefixOf l) ||
    disk.files.any fun f => location.isPrefixOf f.1 && location ≠ f.1

/-- Whether something can be made at a location. -/
def isOpen (disk : Disk) (location : Location) : Bool :=
  disk.closed.all fun l => !l.isPrefixOf location

/-- One step of a way that every folder on it must exist for. -/
def step (disk : Disk) (location : Option Location) (name : String) : Option Location :=
  location.bind fun location =>
    if ¬ (disk.isFolder location ∧ Path.isName name) then none
    else if name = ".." then some location.dropLast
    else some (location ++ [name])

/-- What a path leads to. -/
inductive Found where
  | nothing
  | folder
  | file (content : Content)
  deriving Repr, Inhabited

/-- What is at a location. -/
def find (disk : Disk) (location : Location) : Found :=
  match disk.file? location with
  | some content => .file content
  | none => if disk.isFolder location then .folder else .nothing

/-- What a path leads to, when every folder on the way exists. -/
def lookup (disk : Disk) (path : String) : Found :=
  if path = "" then .nothing
  else match (Path.names path).foldl disk.step (some (disk.start path)) with
    | none => .nothing
    | some location => match disk.find location with
      | .file content => if Path.wantsFolder path then .nothing else .file content
      | found => found

/-- Whether a path leads to nothing. -/
def lacks (disk : Disk) (path : String) : Bool :=
  match disk.lookup path with
  | .nothing => true
  | _ => false

/-- What a reader of text finds.  A database is no text. -/
def source (disk : Disk) (path : String) : Source :=
  match disk.lookup path with
  | .nothing => .missing
  | .folder => .directory
  | .file (.bytes bytes) => .file bytes
  | .file .sink => .file []
  | .file (.database _) => .directory

/-- Makes the folder of a name at a location, or finds it there. -/
def makeStep (state : Option (Disk × Location)) (name : String) : Option (Disk × Location) :=
  state.bind fun (disk, location) =>
    let next := location ++ [name]
    if name = ".." then some (disk, location.dropLast)
    else match disk.find next with
      | .folder => some (disk, next)
      | .file _ => none
      | .nothing =>
        if Path.isName name && disk.isOpen next then
          some ({ disk with folders := disk.folders ++ [next] }, next)
        else none

/-- Makes all folders on the way to what a path names.  A file on the way forbids that. -/
def makeFolders? (disk : Disk) (path : String) : Option Disk :=
  ((Path.names path).dropLast.foldl makeStep (some (disk, disk.start path))).map Prod.fst

/-- The disk with a file written. -/
def write (disk : Disk) (location : Location) (content : Content) : Disk :=
  { disk with files :=
      (disk.files.filter fun f => f.1 ≠ location) ++ [(location, content)] }

/-- The disk without a file. -/
def erase (disk : Disk) (location : Location) : Disk :=
  { disk with files := disk.files.filter fun f => f.1 ≠ location }

/-- An erased file is gone. -/
theorem file?_erase_self (disk : Disk) (location : Location) :
    (disk.erase location).file? location = none := by
  simp only [erase, file?, Option.map_eq_none_iff, List.find?_eq_none]
  intro f hf
  simpa using (List.mem_filter.1 hf).2

/-- A file that has been written holds what was written. -/
theorem file?_write_self (disk : Disk) (location : Location) (content : Content) :
    (disk.write location content).file? location = some content := by
  have hnone : (disk.files.filter fun f => f.1 ≠ location).find? (fun f => f.1 = location) = none := by
    rw [List.find?_eq_none]
    intro f hf
    simpa using (List.mem_filter.1 hf).2
  simp only [write, file?]
  rw [List.find?_append, hnone]
  simp

/-- The other files stay as they are. -/
theorem file?_write_of_ne (disk : Disk) {location other : Location} (content : Content)
    (h : other ≠ location) : (disk.write location content).file? other = disk.file? other := by
  have hsame : (disk.files.filter fun f => f.1 ≠ location).find? (fun f => f.1 = other) =
      disk.files.find? fun f => f.1 = other := by
    rw [List.find?_filter]
    congr 1
    funext f
    by_cases hf : f.1 = other <;> simp [hf, h]
  have hlast : [(location, content)].find? (fun f => f.1 = other) = none := by
    simp [Ne.symm h]
  simp only [write, file?]
  rw [List.find?_append, hsame, hlast, Option.or_none]

/-- The path of a location. -/
def pathOf (location : Location) : String :=
  String.intercalate "/" location

/-- The paths from the working folder to the files below it, in order. -/
def paths (disk : Disk) : List String :=
  ((disk.files.filter fun f => disk.here.isPrefixOf f.1).map fun f =>
    pathOf (f.1.drop disk.here.length)).mergeSort fun a b => a ≤ b

end Disk

end Recital
