import Recital.Entity.Basic
import Recital.Text.Percent

/-!
# Places

A place is what a path names.

* `Place` : the places, their parameters as they stand in the path.
* `Place.ofPath?` : the place of a path.  Names are compared letter by letter, an empty parameter is
  none, and nothing may follow.
* `target` : the path and the query of a request target, whose scheme, authority and fragment do not
  count.
-/

set_option autoImplicit false

namespace Recital.Http

/-- A parameter as it stands in a path, percent-encoded. -/
abbrev Parameter := List Char

/-- What a path names. -/
inductive Place where
  | health
  /-- All entities of a kind. -/
  | collection (kind : Kind)
  /-- One entity. -/
  | member (kind : Kind) (id : Parameter)
  | programmeDetails (id : Parameter)
  | programmePieces (id : Parameter)
  /-- The events with their times. -/
  | eventTimes
  | eventNotes (id : Parameter)
  /-- The place to ask for a change of status. -/
  | eventStatus (status : Status) (id : Parameter)
  | biography (variant : Parameter)
  deriving DecidableEq, Repr, Inhabited

/-- The name of the collection of a kind. -/
def collectionName : Kind → String
  | .composer => "composers"
  | .piece => "pieces"
  | .programme => "programmes"
  | .venue => "venues"
  | .event => "events"

/-- The kind of the collection of a name. -/
def kindOf? (name : String) : Option Kind :=
  [Kind.composer, .piece, .programme, .venue, .event].find? fun kind => collectionName kind = name

/-- What an aspect of an entity names. -/
def aspect? (kind : Kind) (id : Parameter) (name : String) : Option Place :=
  match kind, name with
  | .programme, "details" => some (.programmeDetails id)
  | .programme, "pieces" => some (.programmePieces id)
  | .event, "notes" => some (.eventNotes id)
  | .event, "draft" => some (.eventStatus .draft id)
  | .event, "publish" => some (.eventStatus .published id)
  | .event, "archive" => some (.eventStatus .archived id)
  | _, _ => none

/-- The place of the names between the slashes of a path, none of which is empty. -/
def placeOf? : List (List Char) → Option Place
  | [name] =>
    if String.ofList name = "health" then some .health
    else (kindOf? (String.ofList name)).map Place.collection
  | [name, id] =>
    if String.ofList name = "biography" then some (.biography id)
    else (kindOf? (String.ofList name)).map fun kind =>
      if kind = .event ∧ String.ofList id = "timestamps" then .eventTimes else .member kind id
  | [name, id, aspect] =>
    (kindOf? (String.ofList name)).bind fun kind => aspect? kind id (String.ofList aspect)
  | _ => none

/-- The place of a path. -/
def Place.ofPath? : List Char → Option Place
  | '/' :: path =>
    let names := Text.splitAt '/' path
    if names.contains [] then none else placeOf? names
  | _ => none

/-- Whether a character may stand in the scheme of an absolute target. -/
def isSchemeChar (c : Char) : Bool :=
  c.isAlphanum || c = '+' || c = '-' || c = '.'

/-- A request target from its path on: an absolute one has a scheme and an authority before it. -/
def fromPath (cs : List Char) : List Char :=
  match cs.dropWhile isSchemeChar with
  | ':' :: '/' :: '/' :: rest => rest.dropWhile fun c => c ≠ '/' && c ≠ '?' && c ≠ '#'
  | _ => cs

/-- A target that starts with a slash starts with its path. -/
theorem fromPath_slash (cs : List Char) : fromPath ('/' :: cs) = '/' :: cs := by
  have h : isSchemeChar '/' = false := by decide
  simp [fromPath, h]

/-- The path and the query of a request target. -/
def target (s : String) : List Char × List Char :=
  let cs := (fromPath s.toList).takeWhile (· ≠ '#')
  (cs.takeWhile (· ≠ '?'), (cs.dropWhile (· ≠ '?')).drop 1)

end Recital.Http
