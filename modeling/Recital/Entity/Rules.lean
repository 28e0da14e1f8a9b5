import Recital.Fault
import Recital.Text.Blank
import Recital.Text.Quoted

/-!
# Rules of the entities

* `Composer.validate`, … : the first text of an entity that is blank and must not be.
* `Event.draft`, `Event.apply` : new events, and changes to their details.
* `Event.mutable`, `Event.publishable`, `Event.deletable` : what may be done with an event.
* `Status.parse`, `Biography.Variant.parse` : names with the fault of an unknown one.
* `Intent.ensure` : that an intent carries the operation that a request stands for.
-/

set_option autoImplicit false

namespace Recital

open Text (isBlank)

/-- The first of several texts that is blank. -/
def firstBlank : List (String × Violation) → Except Violation Unit
  | [] => .ok ()
  | (s, v) :: rest => if isBlank s then .error v else firstBlank rest

namespace Composer

/-- The first violated rule of a composer. -/
def validate (c : Composer) : Except Violation Unit :=
  firstBlank [(c.fullName, .composerFullName), (c.shortName, .composerShortName)]

end Composer

namespace Piece

/-- The first violated rule of a piece. -/
def validate (p : Piece) : Except Violation Unit :=
  firstBlank [(p.title, .pieceTitle)]

end Piece

namespace Programme

/-- The first violated rule of a programme. -/
def validate (p : Programme) : Except Violation Unit :=
  firstBlank [(p.title, .programmeTitle)]

end Programme

namespace Venue

/-- The first violated rule of a venue. -/
def validate (v : Venue) : Except Violation Unit :=
  firstBlank [(v.name, .venueName), (v.fullAddress, .venueFullAddress),
    (v.shortAddress, .venueShortAddress)]

end Venue

namespace Event

/-- The event with its details replaced; id, status and notes stay. -/
def apply (e : Event) (details : EventDetails) : Event :=
  { e with
    title := details.title
    date := details.date
    ticketLink := details.ticketLink
    venueId := details.venueId
    programmeId := details.programmeId }

/-- A new event: a draft without notes. -/
def draft (details : EventDetails) : Event :=
  ({} : Event).apply details

/-- The rule that every event keeps. -/
def validate (e : Event) : Except Violation Unit :=
  firstBlank [(e.title, .eventTitle)]

/-- Only drafts are edited. -/
def mutable (e : Event) : Except Fault Unit :=
  match e.status with
  | .draft => .ok ()
  | .published => .error .eventImmutable
  | .archived => .error .eventImmutable

/-- The first part that an event needs for its publication and does not have. -/
def publishable (e : Event) : Except Violation Unit :=
  if e.date.isNone then .error .eventDate
  else if (e.ticketLink.map isBlank).getD true then .error .eventTicketLink
  else if e.venueId.isNone then .error .eventVenue
  else if e.programmeId.isNone then .error .eventProgramme
  else .ok ()

/-- Published events are not deleted. -/
def deletable (e : Event) : Except Fault Unit :=
  match e.status with
  | .published => .error (.deletionForbidden .event)
  | .draft => .ok ()
  | .archived => .ok ()

end Event

/-- The status of a name in the database. -/
def Status.parse (s : String) : Except Fault Status :=
  match Status.ofName? s with
  | some status => .ok status
  | none => .error (.invariantBroken ("unknown event status " ++ Text.quoted s))

/-- The variant of a name in a request. -/
def Biography.Variant.parse (s : String) : Except Fault Biography.Variant :=
  match Biography.Variant.ofName? s with
  | some variant => .ok variant
  | none => .error (.invalidBiographyVariant s)

/-- That an intent carries the expected operation.  An unsupported one is invalid whatever is
expected. -/
def Intent.ensure {α : Type} (intent : Intent α) (expected : Operation) : Except Fault Unit :=
  if intent.operation = .unsupported then .error .invalidOperation
  else if intent.operation = expected then .ok ()
  else .error (.operationMismatch expected intent.operation)

/-- A violated rule as a fault of the request. -/
def valid (check : Except Violation Unit) : Except Fault Unit :=
  check.mapError .invalidResource

end Recital
