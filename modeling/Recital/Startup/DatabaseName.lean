import Recital.Text.Integer
import Recital.Text.Percent

/-!
# Names of databases

A database is named by the path of its file, by `:memory:`, or by a name that starts with `file:` and
has options.  Such a name has a host, which is this one, a path, options after a question mark, and a
fragment after a number sign, which does not count; all are percent-encoded.

* `DatabaseName` : a path, and how the database is opened.
* `DatabaseName.parse?` : the name that a text writes.
* `DatabaseName.keeping` : where the database is kept: in a file, or in memory.
-/

set_option autoImplicit false

namespace Recital

/-- What a database is opened for, in ascending order of what may be done with it. -/
inductive Access where
  | read
  | write
  /-- To be written, and made if it is missing. -/
  | create
  /-- To be made in memory. -/
  | memory
  deriving DecidableEq, Repr, Inhabited

namespace Access

/-- The access of a name. -/
def ofName? : String → Option Access
  | "ro" => some read
  | "rw" => some write
  | "rwc" => some create
  | "memory" => some memory
  | _ => none

/-- The order of what may be done. -/
def rank : Access → Nat
  | read => 0
  | write => 1
  | create => 2
  | memory => 3

/-- Whether an access can be asked for where another one is granted.  A database in memory always
can. -/
def isWithin (a granted : Access) : Bool :=
  a = memory || a.rank ≤ granted.rank

end Access

/-- What holds the bytes of a database, and guards them. -/
inductive Storage where
  /-- Files that several connections can write to, through a log of what they write. -/
  | logged
  /-- Files without such a log. -/
  | plain
  | memory
  deriving DecidableEq, Repr, Inhabited

/-- The storage of a name. -/
def Storage.ofName? : String → Option Storage
  | "unix" => some logged
  | "unix-excl" => some logged
  | "unix-none" => some plain
  | "unix-dotfile" => some plain
  | "memdb" => some memory
  | _ => none

/-- Where a database is kept. -/
inductive Keeping where
  | file
  /-- In memory, all connections having one database. -/
  | together
  /-- In memory, each connection having a database of its own. -/
  | apart
  deriving DecidableEq, Repr, Inhabited

/-- A path, and how the database is opened. -/
structure DatabaseName where
  path : String
  access : Access := .create
  isShared : Bool := false
  storage : Storage := .logged
  /-- Whether the file is taken to be one that nobody writes to. -/
  isFrozen : Bool := false
  /-- Whether the file is opened without a guard against other writers. -/
  isUnguarded : Bool := false
  deriving DecidableEq, Repr, Inhabited

namespace DatabaseName

/-- Where the database is kept. -/
def keeping (name : DatabaseName) : Keeping :=
  if name.path = "" then .apart
  else if name.access = .memory ∨ name.path = ":memory:" then
    (if name.isShared then .together else .apart)
  else if name.storage = .memory then
    match name.path.toList with
    | '/' :: _ :: _ => .together
    | '\\' :: _ :: _ => .together
    | _ => .apart
  else .file

/-- Whether the database cannot be written to. -/
def isReadOnly (name : DatabaseName) : Bool :=
  name.access = .read || (name.isFrozen && name.keeping = .file)

/-- Whether several connections write to the file through a log. -/
def isLogged (name : DatabaseName) : Bool :=
  name.storage = .logged && !name.isFrozen && !name.isUnguarded

/-- A part of a name up to an encoded NUL. -/
def cutNul : List Char → List Char
  | '%' :: '0' :: '0' :: _ => []
  | [] => []
  | c :: cs => c :: cutNul cs

/-- The text of an encoded part of a name. -/
def decoded? (part : List Char) : Option String :=
  Text.percentText? (cutNul part)

/-- The names and values of options; one without a name does not count. -/
def options? : List (List Char) → Option (List (String × String))
  | [] => some []
  | piece :: pieces => do
    let name ← decoded? (piece.takeWhile (· ≠ '='))
    let value ← decoded? ((piece.dropWhile (· ≠ '=')).drop 1)
    let rest ← options? pieces
    pure (if name = "" then rest else (name, value) :: rest)

/-- Whether the value of an option says yes.  Of a number the last eight bits count. -/
def saysYes (value : String) : Bool :=
  let digits := value.toList.takeWhile Text.isDigit
  if digits = [] then ["yes", "true", "on"].contains (String.ofList (value.toList.map Char.toLower))
  else Text.naturalOf digits ≤ 2147483647 && Text.naturalOf digits % 256 ≠ 0

/-- Whether the first option of a name says yes. -/
def isSet (options : List (String × String)) (name : String) : Bool :=
  ((options.find? fun o => o.1 = name).map fun o => saysYes o.2).getD false

/-- The name with an option that tells how the database is opened; one of another name does not
matter. -/
def withOption? (name : DatabaseName) : String × String → Option DatabaseName
  | ("mode", value) => do
    let access ← Access.ofName? value
    if access.isWithin name.access then pure { name with access := access } else none
  | ("cache", "shared") => some { name with isShared := true }
  | ("cache", "private") => some { name with isShared := false }
  | ("cache", _) => none
  | ("vfs", value) => (Storage.ofName? value).map fun storage => { name with storage := storage }
  | _ => some name

/-- What follows the host of a name, which is this one if it is given. -/
def afterHost? : List Char → Option (List Char)
  | '/' :: '/' :: cs =>
    let host := String.ofList (cs.takeWhile (· ≠ '/'))
    if host = "" ∨ host = "localhost" then some (cs.dropWhile (· ≠ '/')) else none
  | cs => some cs

/-- The name that a text writes after `file:`. -/
def ofAddress? (cs : List Char) : Option DatabaseName := do
  let cs := (← afterHost? cs).takeWhile (· ≠ '#')
  let path ← decoded? (cs.takeWhile (· ≠ '?'))
  let options ← options? (Text.splitAt '&' ((cs.dropWhile (· ≠ '?')).drop 1))
  let name : DatabaseName :=
    { path := path, isFrozen := isSet options "immutable", isUnguarded := isSet options "nolock" }
  options.foldlM withOption? name

/-- The name that a text writes.  No name holds a NUL. -/
def parse? (s : String) : Option DatabaseName :=
  if s.toList.contains '\x00' then none
  else match s.toList with
    | 'f' :: 'i' :: 'l' :: 'e' :: ':' :: cs => ofAddress? cs
    | _ => some { path := s }

/-- A text without a NUL that does not start with `file:` is a path as it is. -/
theorem parse?_eq_path {s : String} (hn : s.toList.contains '\x00' = false)
    (hf : "file:".toList.isPrefixOf s.toList = false) : parse? s = some { path := s } := by
  unfold parse?
  rw [if_neg (by rw [hn]; decide)]
  split
  · rename_i cs h
    rw [h] at hf
    simp at hf
  · rfl

end DatabaseName

end Recital
