import Recital.Desk.Json
import Recital.Http.MediaType
import Recital.Http.Response

/-!
# Orders

An order is a request that has been understood.

* `Request` : a request as it arrives.
* `Order` : the orders, by what they are about.
* `Request.order` : the order of a request, or why there is none.  The place is looked at first, then
  the method, the parameters, the content type and the body.

A body is a text: a request whose body is not UTF-8 is no `Request`, and nothing is said of it.  The length
of a body is not looked at either: one of more than 2 MiB, which the server refuses with the status 400 and
the code `BAD_REQUEST` instead of decoding it, is decoded here like any other.
-/

set_option autoImplicit false

namespace Recital.Http

open Json Desk

/-- A request as it arrives. -/
structure Request where
  method : String
  target : String
  contentType : Option String := none
  body : String := ""
  deriving DecidableEq, Repr, Inhabited

/-- Which events to list. -/
structure EventFilter where
  status : Option Status := none
  timeframe : Option Timeframe := none
  deriving DecidableEq, Repr, Inhabited

/-- What can be ordered about composers. -/
inductive ComposerOrder where
  | list
  | get (id : Int)
  | create (c : Composer)
  | update (id : Int) (c : Composer)
  | delete (id : Int)
  deriving DecidableEq, Repr, Inhabited

/-- What can be ordered about pieces. -/
inductive PieceOrder where
  | list
  | get (id : Int)
  | create (command : PieceCommand)
  | update (id : Int) (command : PieceCommand)
  | delete (id : Int)
  deriving DecidableEq, Repr, Inhabited

/-- What can be ordered about venues. -/
inductive VenueOrder where
  | list
  | get (id : Int)
  | create (venue : Intent Venue)
  | update (id : Int) (venue : Intent Venue)
  | delete (id : Int)
  deriving DecidableEq, Repr, Inhabited

/-- What can be ordered about programmes. -/
inductive ProgrammeOrder where
  | list
  | get (id : Int)
  | details (id : Int)
  | create (p : Programme)
  | update (id : Int) (p : Programme)
  | replacePieces (id : Int) (pieceIds : List Int)
  | delete (id : Int)
  deriving DecidableEq, Repr, Inhabited

/-- What can be ordered about events. -/
inductive EventOrder where
  | list (filter : EventFilter)
  | listWithTimes (filter : EventFilter)
  | get (id : Int)
  | create (command : EventCommand)
  | update (id : Int) (command : EventCommand)
  | updateNotes (id : Int) (notes : Option String)
  | draft (id : Int)
  | publish (id : Int)
  | archive (id : Int)
  | delete (id : Int)
  deriving DecidableEq, Repr, Inhabited

/-- A request that has been understood. -/
inductive Order where
  | health
  | composer (order : ComposerOrder)
  | piece (order : PieceOrder)
  | venue (order : VenueOrder)
  | programme (order : ProgrammeOrder)
  | event (order : EventOrder)
  | showBiography (variant : String)
  | updateBiography (variant content : String)
  deriving DecidableEq, Repr, Inhabited

/-- A result of understanding a part of a request. -/
abbrev Understood (α : Type) := Except Refusal α

/-- The methods that places know. -/
inductive Method where
  | get | post | put | delete
  deriving DecidableEq, Repr, Inhabited

/-- The method of a name.  A request for the head of a response is understood as one for all of it. -/
def Method.ofName? : String → Option Method
  | "GET" => some .get
  | "HEAD" => some .get
  | "POST" => some .post
  | "PUT" => some .put
  | "DELETE" => some .delete
  | _ => none

namespace Request

/-- The text of a parameter. -/
def parameterText (p : Parameter) : Understood String :=
  match Text.percentText? p with
  | some s => .ok s
  | none => .error .undecodable

/-- The id that a parameter writes. -/
def parameterId (p : Parameter) : Understood Int := do
  let s ← parameterText p
  match Text.integer64? s.toList with
  | some id => .ok id
  | none => .error .notAnId

/-- The body, decoded.  The content type is looked at first. -/
def decoded {α : Type} (r : Request) (decoder : Decoder α) : Understood α :=
  if (r.contentType.map MediaType.isJson).getD false then
    match decode decoder r.body with
    | .ok a => .ok a
    | .error .mismatch => .error .badBody
    | .error .malformed => .error .badJson
    | .error .truncated => .error .badJson
  else .error .notJson

/-- The value of a filter that may be given once. -/
def filterValue {α : Type} (lookup : String → Option α) (name : String)
    (pairs : List (Option String × Option String)) : Understood (Option α) :=
  match pairs.filter fun pair => pair.1 = some name with
  | [] => .ok none
  | [(_, some value)] => match lookup value with
    | some a => .ok (some a)
    | none => .error .badQuery
  | _ => .error .badQuery

/-- The filter of a query. -/
def eventFilter (query : List Char) : Understood EventFilter := do
  let pairs := (Text.formPairs query).map fun (name, value) =>
    (Text.formDecoded? name, Text.formDecoded? value)
  let status ← filterValue Status.ofName? "status" pairs
  let timeframe ← filterValue Timeframe.ofName? "timeframe" pairs
  pure ⟨status, timeframe⟩

/-- The order that a method gives at a collection. -/
def collectionOrder (r : Request) (query : List Char) : Kind → Method → Understood Order
  | .composer, .get => .ok (.composer .list)
  | .composer, .post => (r.decoded Composer.record.read).map (.composer ∘ .create)
  | .piece, .get => .ok (.piece .list)
  | .piece, .post => (r.decoded PieceCommand.record.read).map (.piece ∘ .create)
  | .venue, .get => .ok (.venue .list)
  | .venue, .post => (r.decoded venueCommand.read).map (.venue ∘ .create)
  | .programme, .get => .ok (.programme .list)
  | .programme, .post => (r.decoded Programme.record.read).map (.programme ∘ .create)
  | .event, .get => (eventFilter query).map (.event ∘ .list)
  | .event, .post => (r.decoded EventCommand.record.read).map (.event ∘ .create)
  | _, _ => .error .unknownMethod

/-- The order that shows an entity. -/
def showOrder (kind : Kind) (id : Int) : Order :=
  match kind with
  | .composer => .composer (.get id)
  | .piece => .piece (.get id)
  | .venue => .venue (.get id)
  | .programme => .programme (.get id)
  | .event => .event (.get id)

/-- The order that changes an entity, as the body tells. -/
def updateOrder (r : Request) (kind : Kind) (id : Int) : Understood Order :=
  match kind with
  | .composer => (r.decoded Composer.record.read).map (.composer ∘ .update id)
  | .piece => (r.decoded PieceCommand.record.read).map (.piece ∘ .update id)
  | .venue => (r.decoded venueCommand.read).map (.venue ∘ .update id)
  | .programme => (r.decoded Programme.record.read).map (.programme ∘ .update id)
  | .event => (r.decoded EventCommand.record.read).map (.event ∘ .update id)

/-- The order that removes an entity. -/
def deleteOrder (kind : Kind) (id : Int) : Order :=
  match kind with
  | .composer => .composer (.delete id)
  | .piece => .piece (.delete id)
  | .venue => .venue (.delete id)
  | .programme => .programme (.delete id)
  | .event => .event (.delete id)

/-- The order that a method gives at an entity. -/
def memberOrder (r : Request) (kind : Kind) (id : Parameter) : Method → Understood Order
  | .get => (parameterId id).map (showOrder kind)
  | .put => do r.updateOrder kind (← parameterId id)
  | .delete => (parameterId id).map (deleteOrder kind)
  | .post => .error .unknownMethod

/-- The order that a method gives at a place. -/
def placeOrder (r : Request) (query : List Char) : Place → Method → Understood Order
  | .health, .get => .ok .health
  | .collection kind, method => r.collectionOrder query kind method
  | .member kind id, method => r.memberOrder kind id method
  | .programmeDetails id, .get => (parameterId id).map (.programme ∘ .details)
  | .programmePieces id, .put => do
    let id ← parameterId id
    (r.decoded pieceList.read).map (.programme ∘ .replacePieces id)
  | .eventTimes, .get => (eventFilter query).map (.event ∘ .listWithTimes)
  | .eventNotes id, .put => do
    let id ← parameterId id
    (r.decoded notes.read).map (.event ∘ .updateNotes id)
  | .eventStatus .draft id, .put => (parameterId id).map (.event ∘ .draft)
  | .eventStatus .published id, .put => (parameterId id).map (.event ∘ .publish)
  | .eventStatus .archived id, .put => (parameterId id).map (.event ∘ .archive)
  | .biography variant, .get => (parameterText variant).map .showBiography
  | .biography variant, .put => do
    let variant ← parameterText variant
    (r.decoded biographyContent.read).map (.updateBiography variant)
  | _, _ => .error .unknownMethod

/-- The order of a request, or why there is none. -/
def order (r : Request) : Understood Order :=
  let (path, query) := Http.target r.target
  match Place.ofPath? path with
  | none => .error .unknownPlace
  | some place => match Method.ofName? r.method with
    | none => .error .unknownMethod
    | some method => r.placeOrder query place method

/-- Whether a request asks for the head of the response only. -/
def isHead (r : Request) : Bool :=
  r.method = "HEAD"

end Request

end Recital.Http
