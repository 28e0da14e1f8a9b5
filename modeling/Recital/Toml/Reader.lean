import Recital.Toml.Lexeme

/-!
# Reading TOML

* `readValue` : a value; arrays and tables in braces nest less than `depthLimit` deep.
* `Line` : what a line of a document may be.
* `Section` : a header and the keys below it.
* `parse?` : the table of a document, or nothing if it is not TOML.
-/

set_option autoImplicit false

namespace Recital.Toml

open Recital.Text (Scanner)

/-- A key, as the path to its table and its last part, and its value. -/
abbrev Assignment := List String × String × Value

/-- A value without parts.  A date is tried before a number. -/
def readScalar (cs : List Char) : Option (Value × List Char) :=
  match cs with
  | '"' :: _ => (string? cs).map fun (s, rest) => (.string (String.ofList s), rest)
  | '\'' :: _ => (string? cs).map fun (s, rest) => (.string (String.ofList s), rest)
  | 't' :: 'r' :: 'u' :: 'e' :: rest => some (.boolean true, rest)
  | 'f' :: 'a' :: 'l' :: 's' :: 'e' :: rest => some (.boolean false, rest)
  | cs => match dateTime? cs with
    | some rest => some (.date, rest)
    | none => match float? cs with
      | some rest => some (.float, rest)
      | none => (integer? cs).map fun (n, rest) => (.integer n, rest)

mutual

/-- A value at the start of a text, within `depth` arrays and tables. -/
def readValue (depth : Nat) : Nat → Scanner Value
  | 0, _ => none
  | steps + 1, '[' :: cs =>
    if depthLimit ≤ depth + 1 then none
    else match skipLines (cs.length + 1) cs with
      | some (']' :: rest) => some (.array [], rest)
      | some cs => match readItems (depth + 1) steps cs with
        | some (items, rest) => some (.array items, rest)
        | none => none
      | none => none
  | steps + 1, '\x7b' :: cs =>
    if depthLimit ≤ depth + 1 then none
    else match skipGap cs with
      | '\x7d' :: rest => some (.table .inline [], rest)
      | cs => match readPairs (depth + 1) steps cs with
        | some (pairs, rest) => (fill? [] pairs).map fun entries => (.table .inline entries, rest)
        | none => none
  | _ + 1, cs => readScalar cs

/-- The items of an array, from the next one on. -/
def readItems (depth : Nat) : Nat → Scanner (List Value)
  | 0, _ => none
  | steps + 1, cs => match readValue depth steps cs with
    | none => none
    | some (item, cs) => match skipLines (cs.length + 1) cs with
      | some (']' :: rest) => some ([item], rest)
      | some (',' :: cs) => match skipLines (cs.length + 1) cs with
        | some (']' :: rest) => some ([item], rest)
        | some cs => match readItems depth steps cs with
          | some (items, rest) => some (item :: items, rest)
          | none => none
        | none => none
      | _ => none

/-- The keys and values of a table in braces, from the next one on. -/
def readPairs (depth : Nat) : Nat → Scanner (List Assignment)
  | 0, _ => none
  | steps + 1, cs => match key? cs with
    | some ((path, key), '=' :: cs) => match readValue depth steps (skipGap cs) with
      | none => none
      | some (value, cs) => match skipGap cs with
        | '\x7d' :: rest => some ([(path, key, value)], rest)
        | ',' :: cs => match readPairs depth steps cs with
          | some (pairs, rest) => some ((path, key, value) :: pairs, rest)
          | none => none
        | _ => none
    | _ => none

end

/-- What a line of a document may be. -/
inductive Line where
  | assignment (a : Assignment)
  | table (path : List String) (key : String)
  | tables (path : List String) (key : String)
  deriving Repr, Inhabited

/-- A header after its opening brackets, closed by as many. -/
def readHeader (isArray : Bool) (cs : List Char) : Option (Line × List Char) :=
  match isArray, key? cs with
  | false, some ((path, key), ']' :: cs) => (lineEnd? cs).map fun rest => (.table path key, rest)
  | true, some ((path, key), ']' :: ']' :: cs) =>
    (lineEnd? cs).map fun rest => (.tables path key, rest)
  | _, _ => none

/-- A line that is neither blank nor a comment. -/
def readLine (cs : List Char) : Option (Line × List Char) :=
  match cs with
  | '[' :: '[' :: cs => readHeader true cs
  | '[' :: cs => readHeader false cs
  | cs => match key? cs with
    | some ((path, key), '=' :: cs) =>
      match readValue 0 (2 * cs.length + 2) (skipGap cs) with
      | some (value, cs) => (lineEnd? cs).map fun rest => (.assignment (path, key, value), rest)
      | none => none
    | _ => none

/-- The lines of a document. -/
def readLines : Nat → List Char → Option (List Line)
  | 0, _ => none
  | steps + 1, cs => match skipGap cs with
    | [] => some []
    | '#' :: rest => (lineEnd? ('#' :: rest)).bind (readLines steps)
    | '\n' :: rest => readLines steps rest
    | '\r' :: rest => (newline? ('\r' :: rest)).bind (readLines steps)
    | cs => match readLine cs with
      | some (line, rest) => (readLines steps rest).map (line :: ·)
      | none => none

/-- A header, and the keys below it. -/
structure Section where
  header : Line
  content : List Assignment
  deriving Repr, Inhabited

/-- The keys before the first header, and the sections after it. -/
def sections : List Line → List Assignment × List Section
  | [] => ([], [])
  | .assignment a :: lines =>
    let (content, rest) := sections lines
    (a :: content, rest)
  | header :: lines =>
    let (content, rest) := sections lines
    ([], ⟨header, content⟩ :: rest)

/-- Adds a section to the table of a document. -/
def addSection (entries : Entries) (s : Section) : Option Entries :=
  match s.header with
  | .table path key => within? (openTable? s.content key) path entries
  | .tables path key => within? (extendTables? s.content key) path entries
  | .assignment _ => none

/-- The table of the lines of a document. -/
def ofLines? (lines : List Line) : Option Entries :=
  let (content, rest) := sections lines
  rest.foldl (fun entries s => entries.bind fun entries => addSection entries s) (fill? [] content)

/-- The table of a document.  A byte order mark at its start does not count. -/
def parse? (s : String) : Option Entries :=
  let cs := match s.toList with
    | '\ufeff' :: cs => cs
    | cs => cs
  (readLines (cs.length + 1) cs).bind ofLines?

end Recital.Toml
