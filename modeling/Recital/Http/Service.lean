import Recital.Http.Order

/-!
# Serving requests

* `Order.plan` : the plan that carries out an order and makes its response.
* `respond` : a request on an open catalogue.
* `respondClosed` : the response when the catalogue is closed.
-/

set_option autoImplicit false

namespace Recital.Http

open Json Listing Statement

/-- The plan whose value is shown. -/
def showing {α : Type} [Showable α] (plan : Plan α) : Plan Response :=
  plan.map Response.shown

/-- The plan whose value has been made, with the mark of the request. -/
def creating {α : Type} [Showable α] (mark : Option String) (plan : Plan α) : Plan Response :=
  plan.map (Response.created mark)

/-- The plan that removes something. -/
def deleting (plan : Plan Unit) : Plan Response :=
  plan.map fun () => Response.noContent

/-- The revision that the service was built from. -/
def revision : String := "unknown"

/-- What the service tells about itself. -/
def health : Value :=
  .object [("status", .string "ok"), ("module", .string "arman-cms"), ("version", .string "0.1.0"),
    ("git_hash", .string revision)]

def ComposerOrder.plan : ComposerOrder → Plan Response
  | list => showing (.step (allDetails Composer))
  | get id => showing (.step (detailsOf Composer id))
  | create c => creating none (Desk.createComposer c)
  | update id c => showing (Desk.updateComposer id c)
  | delete id => deleting (Desk.deleteComposer id)

def PieceOrder.plan : PieceOrder → Plan Response
  | list => showing (.step (allDetails Piece))
  | get id => showing (.step (detailsOf Piece id))
  | create command => creating command.piece.tempId (Desk.createPiece command)
  | update id command => showing (Desk.updatePiece id command)
  | delete id => deleting (Desk.deletePiece id)

def VenueOrder.plan : VenueOrder → Plan Response
  | list => showing (.step (allDetails Venue))
  | get id => showing (.step (detailsOf Venue id))
  | create venue => creating venue.tempId (Desk.createVenue venue)
  | update id venue => showing (Desk.updateVenue id venue)
  | delete id => deleting (Desk.deleteVenue id)

def ProgrammeOrder.plan : ProgrammeOrder → Plan Response
  | list => showing (.step (allDetails Programme))
  | get id => showing (.step (programmeWithPieces id))
  | details id => showing (.step (detailsOf Programme id))
  | create p => creating none (Desk.createProgramme p)
  | update id p => showing (Desk.updateProgramme id p)
  | replacePieces id pieceIds => showing (Desk.replacePieces id pieceIds)
  | delete id => deleting (Desk.deleteProgramme id)

/-- The plan for an order about events at the moment `now`. -/
def EventOrder.plan (now : Instant) : EventOrder → Plan Response
  | list filter => showing (.step (listEvents now filter.status filter.timeframe now))
  | listWithTimes filter =>
    showing (.step (listEventsWithTimes now filter.status filter.timeframe now))
  | get id => showing (.step (eventWithProgramme id))
  | create command => creating command.tempId (Desk.createEvent now command)
  | update id command => showing (Desk.updateEvent now id command)
  | updateNotes id notes => showing (Desk.updateNotes now id notes)
  | draft id => showing (Desk.draftEvent now id)
  | publish id => showing (Desk.publishEvent now id)
  | archive id => showing (Desk.archiveEvent now id)
  | delete id => deleting (Desk.deleteEvent id)

/-- The plan for an order at the moment `now`; an order that touches no catalogue has its response at
once. -/
def Order.plan (now : Instant) : Order → Response ⊕ Plan Response
  | health => .inl ⟨200, some Http.health⟩
  | composer order => .inr order.plan
  | piece order => .inr order.plan
  | venue order => .inr order.plan
  | programme order => .inr order.plan
  | event order => .inr (order.plan now)
  | showBiography variant => .inr (showing (Desk.showBiography variant))
  | updateBiography variant content => .inr (showing (Desk.updateBiography variant content))

/-- The answer to the result of a plan. -/
def answer : Except Fault Response → Response
  | .ok r => r
  | .error e => .ofFault e

/-- Answers an order on an open catalogue. -/
def Order.respond (now : Instant) (order : Order) (db : Catalogue) : Response × Catalogue :=
  match order.plan now with
  | .inl r => (r, db)
  | .inr plan => match plan.run.run db with
    | (result, db) => (answer result, db)

/-- Answers an order when the catalogue is closed. -/
def Order.respondClosed (now : Instant) (order : Order) : Response :=
  match order.plan now with
  | .inl r => r
  | .inr plan => .ofFault plan.refused

/-- What is sent of a response. -/
def Request.trim (request : Request) (r : Response) : Response :=
  if request.isHead then r.bodiless else r

/-- Answers a request on an open catalogue. -/
def respond (now : Instant) (request : Request) (db : Catalogue) : Response × Catalogue :=
  match request.order with
  | .error refusal => (request.trim refusal.response, db)
  | .ok order => match order.respond now db with
    | (r, db) => (request.trim r, db)

/-- Answers a request when the catalogue is closed. -/
def respondClosed (now : Instant) (request : Request) : Response :=
  match request.order with
  | .error refusal => request.trim refusal.response
  | .ok order => request.trim (order.respondClosed now)

end Recital.Http
