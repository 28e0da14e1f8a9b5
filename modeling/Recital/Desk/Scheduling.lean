import Recital.Catalogue.Listing
import Recital.Catalogue.Plan
import Recital.Intent.Resolution

/-!
# Scheduling events

An event starts as a draft, is published and archived, and may return to draft.  Its details are edited
while it is a draft, its notes at any time.

* `EventCommand` : the details of an event, with an optional intent on its venue.
* `createEvent`, `updateEvent`, `updateNotes`, `deleteEvent`.
* `draftEvent`, `archiveEvent` : from any status.
* `publishEvent` : the programme must have pieces, and then nothing may be missing.
-/

set_option autoImplicit false

namespace Recital.Desk

open Step Statement

/-- The details of an event.  A venue that is resolved takes the place of the one in the details. -/
structure EventCommand where
  event : EventDetails
  venue : Option (Intent Venue) := none
  tempId : Option String := none
  deriving DecidableEq, Repr, Inhabited

/-- The details of a command, after its venue has been resolved. -/
def resolveVenue (command : EventCommand) : Step EventDetails :=
  match command.venue with
  | none => pure command.event
  | some intent => do
    let venue ← resolve intent
    pure { command.event with venueId := some venue.id }

/-- That a reference, if there is one, names a row. -/
def requireReference (kind : Kind) : Option Int → Step Unit
  | none => pure ()
  | some id => require kind id

/-- That the venue and then the programme of an event exist. -/
def requireReferences (e : Event) : Step Unit := do
  requireReference .venue e.venueId
  requireReference .programme e.programmeId

/-- A new draft. -/
def createEvent (now : Instant) (command : EventCommand) : Plan Event :=
  .step <| atomically do
    let details ← resolveVenue command
    let e := Event.draft details
    check (valid e.validate)
    requireReferences e
    insertEvent now e

/-- The details of a draft replaced. -/
def updateEvent (now : Instant) (id : Int) (command : EventCommand) : Plan Event.WithProgramme :=
  .step <| atomically do
    lock .event id
    let stored ← fetchEvent id
    check stored.mutable
    let details ← resolveVenue command
    let e := stored.apply details
    check (valid e.validate)
    requireReferences e
    let updated ← Statement.updateEvent now e
    Listing.withProgramme updated

/-- The notes of an event replaced. -/
def updateNotes (now : Instant) (id : Int) (notes : Option String) : Plan Event :=
  .step (Statement.updateNotes now id notes)

/-- An event back to draft. -/
def draftEvent (now : Instant) (id : Int) : Plan Event :=
  .step (setStatus now id .draft)

/-- An event archived. -/
def archiveEvent (now : Instant) (id : Int) : Plan Event :=
  .step (setStatus now id .archived)

/-- That a programme, if there is one, exists and has pieces. -/
def requirePieced : Option Int → Step Unit
  | none => pure ()
  | some id => do
    let _ : Programme ← fetch id
    let n ← count .programmePieces id
    if n = 0 then fail .programmeHasNoPieces else pure ()

/-- An event published. -/
def publishEvent (now : Instant) (id : Int) : Plan Event :=
  .step <| atomically do
    lock .event id
    let e ← fetchEvent id
    check (valid e.validate)
    requirePieced e.programmeId
    check (e.publishable.mapError .notPublishable)
    setStatus now id .published

/-- An event removed; it must not be published. -/
def deleteEvent (id : Int) : Plan Unit :=
  .step <| atomically do
    lock .event id
    let e ← fetchEvent id
    check e.deletable
    Statement.deleteEvent id

end Recital.Desk
