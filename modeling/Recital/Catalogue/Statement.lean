import Recital.Catalogue.Step

/-!
# Statements

The statements that the use cases are made of, each with the rules of the schema: references must name
rows when they are written, a composer with pieces and a piece in a programme cannot be deleted, the
slots of a programme go with it, and an event loses the venue or the programme that is deleted.

* `fetch`, `insert`, `update` : the rows of any table.
* `lock`, `exists?`, `count`, `requireFree` : what a use case asks before it writes.
* `deleteComposer`, `deletePiece`, `deleteProgramme`, `deleteVenue`, `deleteEvent`.
* `insertEvent`, `updateEvent`, `updateNotes`, `setStatus` : writes of event rows.  They read the row
  back, and a row that does not decode is a fault after the write.
* `replaceSlots` : the slots of a programme, one statement for each.
* `biography`, `putBiography`, `deleteBiography`.
* `poke` : one column of an event, whatever it says.
-/

set_option autoImplicit false

namespace Recital.Statement

open Step

section Rows

variable {α : Type} [Stored α]

/-- The row of an id. -/
def fetch (id : Int) : Step α :=
  query fun db => match (Stored.table (α := α) db).find? id with
    | some row => .ok row
    | none => .error .notFound

/-- A new row, which gets its id here. -/
def insert (row : α) : Step α :=
  statement fun db =>
    if Stored.refers db row then
      match (Stored.table db).insert? row with
      | some (row, table) => .ok (row, Stored.setTable table db)
      | none => .error .database
    else .error .database

/-- The row of an id replaced.  A missing row is found out before an unknown reference. -/
def update (row : α) : Step α :=
  statement fun db =>
    if (Stored.table (α := α) db).has (Keyed.id row) then
      if Stored.refers db row then .ok (row, Stored.setTable ((Stored.table db).put row) db)
      else .error .database
    else .error .notFound

end Rows

/-- Touches the row of an id. -/
def lock (kind : Kind) (id : Int) : Step Unit :=
  query fun db => if db.has kind id then .ok () else .error .notFound

/-- Whether an id has a row. -/
def exists? (kind : Kind) (id : Int) : Step Bool :=
  query fun db => .ok (db.has kind id)

/-- That an id has a row. -/
def require (kind : Kind) (id : Int) : Step Unit := do
  if ← exists? kind id then pure () else fail .notFound

/-- Writes every row of a kind again as it is, and checks that it was one. -/
def touchAll (kind : Kind) : Step Unit :=
  query fun db => Fault.affected (db.size kind)

/-- How many rows depend on an id. -/
def count (dependency : Dependency) (id : Int) : Step Nat :=
  query fun db => .ok (dependency.count db id)

/-- Fails with `blocked` if a row depends on an id. -/
def requireFree (dependency : Dependency) (id : Int) (blocked : Fault) : Step Unit := do
  let n ← count dependency id
  if 0 < n then fail blocked else pure ()

/-- Removes a composer.  Its pieces forbid it. -/
def deleteComposer (id : Int) : Step Unit :=
  statement fun db =>
    if ¬ db.composers.has id then .error .notFound
    else if db.pieces.rows.any fun p => p.composerId = id then .error .database
    else .ok ((), { db with composers := db.composers.erase id })

/-- Removes a piece.  Its slots forbid it. -/
def deletePiece (id : Int) : Step Unit :=
  statement fun db =>
    if ¬ db.pieces.has id then .error .notFound
    else if db.slots.any fun s => s.pieceId = id then .error .database
    else .ok ((), { db with pieces := db.pieces.erase id })

/-- The events without a reference, where it is to that id. -/
def withoutReference (r : EventRow.Reference) (id : Int) (events : Table EventRow) : Table EventRow :=
  { events with rows := events.rows.map fun row => row.without r id }

/-- Removes a programme, with its slots and the references of events to it. -/
def deleteProgramme (id : Int) : Step Unit :=
  statement fun db =>
    if ¬ db.programmes.has id then .error .notFound
    else .ok ((), { db with
      programmes := db.programmes.erase id
      slots := db.slots.filter fun s => s.programmeId ≠ id
      events := withoutReference .programme id db.events })

/-- Removes a venue, with the references of events to it. -/
def deleteVenue (id : Int) : Step Unit :=
  statement fun db =>
    if ¬ db.venues.has id then .error .notFound
    else .ok ((), { db with
      venues := db.venues.erase id
      events := withoutReference .venue id db.events })

/-- Removes an event. -/
def deleteEvent (id : Int) : Step Unit :=
  statement fun db =>
    if ¬ db.events.has id then .error .notFound
    else .ok ((), { db with events := db.events.erase id })

/-- The event of an id. -/
def fetchEvent (id : Int) : Step Event := do
  let row : EventRow ← fetch id
  check row.event

/-- A new event with the status it carries, made at `now`. -/
def insertEvent (now : Instant) (e : Event) : Step Event := do
  let row ← insert {
    title := e.title, date := e.date.map Instant.stored, ticketLink := e.ticketLink,
    venueId := e.venueId, programmeId := e.programmeId, status := e.status, notes := e.notes,
    createdAt := now.stored, updatedAt := now.stored : EventRow }
  check row.event

/-- Changes the stored row of an event, as far as the catalogue allows it, and reads it back. -/
def changeEvent (id : Int) (change : Catalogue → EventRow → Except Fault EventRow) : Step Event := do
  let row ← statement fun db => match db.events.find? id with
    | none => .error .notFound
    | some row => (change db row).map fun row => (row, { db with events := db.events.put row })
  check row.event

/-- The details of an event replaced; its status and notes stay. -/
def updateEvent (now : Instant) (e : Event) : Step Event :=
  changeEvent e.id fun db row =>
    let row := { row with
      title := e.title, date := e.date.map Instant.stored, ticketLink := e.ticketLink,
      venueId := e.venueId, programmeId := e.programmeId, updatedAt := now.stored }
    if Stored.refers db row then .ok row else .error .database

/-- The notes of an event replaced. -/
def updateNotes (now : Instant) (id : Int) (notes : Option String) : Step Event :=
  changeEvent id fun _ row => .ok { row with notes := notes, updatedAt := now.stored }

/-- The status of an event replaced. -/
def setStatus (now : Instant) (id : Int) (status : Status) : Step Event :=
  changeEvent id fun _ row => .ok { row with status := status, updatedAt := now.stored }

/-- Removes the slots of a programme. -/
def clearSlots (programmeId : Int) : Step Unit :=
  statement fun db =>
    .ok ((), { db with slots := db.slots.filter fun s => s.programmeId ≠ programmeId })

/-- A new slot.  Programme and piece must exist, the place must be free and positive. -/
def insertSlot (slot : Slot) : Step Unit :=
  statement fun db =>
    if 0 < slot.sequence ∧ db.has .programme slot.programmeId ∧ db.has .piece slot.pieceId ∧
        ¬ db.slots.any fun s => s.programmeId = slot.programmeId ∧ s.sequence = slot.sequence then
      .ok ((), { db with slots := db.slots ++ [slot] })
    else .error .database

/-- New slots, one after the other. -/
def insertSlots (programmeId : Int) : List (Int × Int) → Step Unit
  | [] => pure ()
  | (sequence, pieceId) :: rest => do
    insertSlot ⟨programmeId, pieceId, sequence⟩
    insertSlots programmeId rest

/-- The slots of a programme replaced by pieces in order, numbered from one. -/
def replaceSlots (programmeId : Int) (pieceIds : List Int) : Step Unit := do
  clearSlots programmeId
  insertSlots programmeId (sequenced pieceIds)

/-- The biography of a variant. -/
def biography (variant : Biography.Variant) : Step Biography :=
  query fun db => match db.biographies.get? variant with
    | some content => .ok ⟨content, variant⟩
    | none => .error .notFound

/-- A biography, new or in place of the stored one. -/
def putBiography (b : Biography) : Step Biography :=
  statement fun db =>
    .ok (b, { db with biographies := db.biographies.set (some b.content) b.variant })

/-- Removes the biography of a variant. -/
def deleteBiography (variant : Biography.Variant) : Step Unit :=
  statement fun db => match db.biographies.get? variant with
    | some _ => .ok ((), { db with biographies := db.biographies.set none variant })
    | none => .error .notFound

/-- The columns of an event that can be overwritten by hand. -/
inductive Column where
  | date | createdAt | updatedAt | status
  deriving DecidableEq, Repr, Inhabited

/-- The row with a text in a column, if the schema allows it: only the date may be missing, and a status
must be a known one. -/
def Column.set? (row : EventRow) : Column → Option String → Option EventRow
  | .date, value => some { row with date := value }
  | .createdAt, some s => some { row with createdAt := s }
  | .updatedAt, some s => some { row with updatedAt := s }
  | .status, some s => (Status.ofName? s).map fun status => { row with status := status }
  | _, none => none

/-- Overwrites a column of an event. -/
def poke (column : Column) (id : Int) (value : Option String) : Step Unit :=
  statement fun db => match db.events.find? id with
    | none => .error .notFound
    | some row => match column.set? row value with
      | none => .error .database
      | some row => .ok ((), { db with events := db.events.put row })

end Recital.Statement
