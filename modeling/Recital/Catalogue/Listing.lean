import Recital.Catalogue.Statement
import Recital.Instant.JulianDay

/-!
# Listings

What is shown of the catalogue: entities with the number of rows that depend on them, programmes with
their pieces, events with their programme, and events in chronological order.

* `Composer.Details`, `Piece.Details`, `Venue.Details`, `Programme.Details` : entities with counts;
  `Detailed` reads and lists them.
* `piecesOf`, `programmeWithPieces` : a programme as it is performed.
* `eventWithProgramme` : an event and the programme it performs.
* `listEvents` : events by descending date, those without a readable date last, then by id.
* `listEventsWithTimes` : events by id, with the times of their creation and last change.

Both list around a given moment.  The time at which they are read matters only to a date that is a word
for it.
-/

set_option autoImplicit false

namespace Recital

/-- A composer and the number of its pieces. -/
structure Composer.Details where
  composer : Composer
  pieceCount : Nat
  deriving DecidableEq, Repr, Inhabited

/-- A piece and the number of programmes with it. -/
structure Piece.Details where
  piece : Piece
  programmeCount : Nat
  deriving DecidableEq, Repr, Inhabited

/-- A venue and the number of published events at it. -/
structure Venue.Details where
  venue : Venue
  eventCount : Nat
  deriving DecidableEq, Repr, Inhabited

/-- A programme, the number of its slots and that of the published events that perform it. -/
structure Programme.Details where
  programme : Programme
  pieceCount : Nat
  eventCount : Nat
  deriving DecidableEq, Repr, Inhabited

/-- A piece at its place in a programme, with its composer. -/
structure Programme.Entry where
  piece : Piece
  composer : Composer
  sequence : Int
  deriving DecidableEq, Repr, Inhabited

/-- A programme and its pieces in order. -/
structure Programme.WithPieces where
  programme : Programme
  pieces : List Programme.Entry
  deriving DecidableEq, Repr, Inhabited

/-- An event and the programme it performs. -/
structure Event.WithProgramme where
  event : Event
  programme : Option Programme.WithPieces
  deriving DecidableEq, Repr, Inhabited

/-- An event and when it was made and last changed. -/
structure Event.WithTimes where
  event : Event
  createdAt : Instant
  updatedAt : Instant
  deriving DecidableEq, Repr

/-- Entities that are shown with counts.  One of them alone and all of them are asked for by queries of
their own. -/
class Detailed (α : Type) (δ : outParam Type) extends Stored α where
  /-- A row with its counts, asked for alone. -/
  details : Catalogue → α → δ
  /-- A row with its counts, in the list of all. -/
  listed : Catalogue → α → δ

instance : Detailed Composer Composer.Details where
  details db c := ⟨c, db.pieces.rows.countP fun p => p.composerId = c.id⟩
  listed db c := ⟨c, db.pieces.rows.countP fun p => p.composerId = c.id⟩

instance : Detailed Piece Piece.Details where
  details db p :=
    ⟨p, ((db.slots.filter fun s => s.pieceId = p.id).map Slot.programmeId).eraseDups.length⟩
  listed db p :=
    ⟨p, ((db.slots.filter fun s => s.pieceId = p.id).map Slot.programmeId).eraseDups.length⟩

instance : Detailed Venue Venue.Details where
  details db v :=
    ⟨v, db.events.rows.countP fun e => e.venueId = some v.id ∧ e.status = .published⟩
  listed db v :=
    ⟨v, db.events.rows.countP fun e => e.venueId = some v.id ∧ e.status = .published⟩

instance : Detailed Programme Programme.Details where
  details db p :=
    ⟨p, db.slots.countP fun s => s.programmeId = p.id,
      db.events.rows.countP fun e => e.programmeId = some p.id ∧ e.status = .published⟩
  listed db p :=
    ⟨p, db.slots.countP fun s => s.programmeId = p.id,
      db.events.rows.countP fun e => e.programmeId = some p.id ∧ e.status = .published⟩

namespace Listing

open Step Statement

/-- The entity of an id with its counts. -/
def detailsOf (α : Type) {δ : Type} [Detailed α δ] (id : Int) : Step δ :=
  query fun db => match (Stored.table (α := α) db).find? id with
    | some row => .ok (Detailed.details db row)
    | none => .error .notFound

/-- All entities of a kind with their counts, by id. -/
def allDetails (α : Type) {δ : Type} [Detailed α δ] : Step (List δ) :=
  query fun db => .ok ((Stored.table (α := α) db).rows.map (Detailed.listed db))

/-- A slot joined with every piece of its id, and the piece with every composer of its own. -/
def joined (db : Catalogue) (slot : Slot) : List Programme.Entry :=
  (db.pieces.rows.filter fun piece => piece.id = slot.pieceId).flatMap fun piece =>
    (db.composers.rows.filter fun composer => composer.id = piece.composerId).map fun composer =>
      ⟨piece, composer, slot.sequence⟩

/-- The slots of a programme in the order of their places. -/
def orderedSlots (db : Catalogue) (programmeId : Int) : List Slot :=
  (db.slotsOf programmeId).mergeSort fun a b => a.sequence ≤ b.sequence

/-- The pieces of a programme in order. -/
def piecesOf (programmeId : Int) : Step (List Programme.Entry) :=
  query fun db => .ok ((orderedSlots db programmeId).flatMap (joined db))

/-- A programme with its pieces in order. -/
def programmeWithPieces (id : Int) : Step Programme.WithPieces := do
  let programme ← fetch id
  let pieces ← piecesOf id
  pure ⟨programme, pieces⟩

/-- An event with the programme it performs. -/
def withProgramme (e : Event) : Step Event.WithProgramme :=
  match e.programmeId with
  | none => pure ⟨e, none⟩
  | some id => do
    let programme ← programmeWithPieces id
    pure ⟨e, some programme⟩

/-- The event of an id with the programme it performs. -/
def eventWithProgramme (id : Int) : Step Event.WithProgramme := do
  let e ← fetchEvent id
  withProgramme e

/-- The distance of a stored date from the start of the Julian period, read at the time `now`. -/
def dateKey (now : Instant) (row : EventRow) : Option Int :=
  row.date.bind (JulianDay.julianMillis? (JulianDay.ofInstant? now))

/-- Whether a date is in a timeframe around a moment.  A date without a key is in none. -/
def inTimeframe (date moment : Option Int) : Timeframe → Bool
  | .past => match date, moment with
    | some d, some n => d < n
    | _, _ => false
  | .upcoming => match date, moment with
    | some d, some n => n ≤ d
    | _, _ => false

/-- Whether an event, read at the time `now`, passes the filters that are given. -/
def passes (now : Instant) (status : Option Status) (timeframe : Option Timeframe) (moment : Instant)
    (row : EventRow) : Bool :=
  status.all (fun s => row.status = s) &&
    timeframe.all (inTimeframe (dateKey now row) (JulianDay.ofInstant? moment))

/-- Later dates first, no date last, then by id. -/
def latestFirst (now : Instant) (a b : EventRow) : Bool :=
  match dateKey now a, dateKey now b with
  | some x, some y => y < x || (x = y && a.id ≤ b.id)
  | some _, none => true
  | none, some _ => false
  | none, none => a.id ≤ b.id

/-- The values of a list, or the first fault among them. -/
def each {α β : Type} (f : α → Except Fault β) : List α → Except Fault (List β)
  | [] => .ok []
  | a :: as => match f a with
    | .error e => .error e
    | .ok b => (each f as).map (b :: ·)

/-- The events that pass the filters around a moment, read at the time `now`, latest first. -/
def listEvents (now : Instant) (status : Option Status) (timeframe : Option Timeframe)
    (moment : Instant) : Step (List Event) :=
  query fun db =>
    each EventRow.event
      ((db.events.rows.filter (passes now status timeframe moment)).mergeSort (latestFirst now))

/-- An event with its times. -/
def eventWithTimes (row : EventRow) : Except Fault Event.WithTimes := do
  let event ← row.event
  let createdAt ← storedInstant row.createdAt
  let updatedAt ← storedInstant row.updatedAt
  pure ⟨event, createdAt, updatedAt⟩

/-- The events that pass the filters around a moment, read at the time `now`, by id, with their
times. -/
def listEventsWithTimes (now : Instant) (status : Option Status) (timeframe : Option Timeframe)
    (moment : Instant) : Step (List Event.WithTimes) :=
  query fun db => each eventWithTimes (db.events.rows.filter (passes now status timeframe moment))

end Listing

end Recital
