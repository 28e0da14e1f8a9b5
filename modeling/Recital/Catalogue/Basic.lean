import Recital.Catalogue.Table
import Recital.Fault
import Recital.Instant.Format
import Recital.Instant.Reading

/-!
# The catalogue

All that is stored: five tables of entities, the slots of the programmes, and the biographies.

* `Slot` : a piece at a place of a programme.
* `EventRow` : an event as it is stored, its dates as text; `EventRow.event` decodes it.
* `EventRow.Reference` : what an event may refer to; `EventRow.without` : the row once this is removed.
* `Biographies` : their rows; `add` makes one unless its variant has one, `put` makes or changes one.
* `Catalogue` : the whole state; `Catalogue.fresh` is a new one, and `Catalogue.seeded` what opening an
  existing one leaves.
* `Stored` : the entities that have a table, with the rule that their references name rows.
* `Dependency` : what may depend on an entity; `Dependency.count` : how many rows do.
-/

set_option autoImplicit false

namespace Recital

/-- A piece at a place of a programme. -/
structure Slot where
  programmeId : Int
  pieceId : Int
  sequence : Int
  deriving DecidableEq, Repr, Inhabited

/-- An event as it is stored: its dates are texts. -/
structure EventRow where
  id : Int := 0
  title : String := ""
  date : Option String := none
  ticketLink : Option String := none
  venueId : Option Int := none
  programmeId : Option Int := none
  status : Status := .draft
  notes : Option String := none
  createdAt : String := ""
  updatedAt : String := ""
  deriving DecidableEq, Repr, Inhabited

instance : Keyed EventRow where
  id := EventRow.id
  withId i e := { e with id := i }

/-- What an event may refer to. -/
inductive EventRow.Reference where
  | venue
  | programme
  deriving DecidableEq, Repr, Inhabited

namespace EventRow

/-- The id that a row refers to. -/
def reference (row : EventRow) : Reference → Option Int
  | .venue => row.venueId
  | .programme => row.programmeId

/-- The row without a reference. -/
def cleared (row : EventRow) : Reference → EventRow
  | .venue => { row with venueId := none }
  | .programme => { row with programmeId := none }

/-- The row without a reference, if it is to that id. -/
def without (row : EventRow) (r : Reference) (id : Int) : EventRow :=
  if row.reference r = some id then row.cleared r else row

end EventRow

/-- The instant of a stored text.  Another text is a fault of the database. -/
def storedInstant (s : String) : Except Fault Instant :=
  match Instant.ofStored? s with
  | some i => .ok i
  | none => .error .database

/-- The instant of a stored text, or none. -/
def storedDate : Option String → Except Fault (Option Instant)
  | none => .ok none
  | some s => (storedInstant s).map some

/-- The event of a row. -/
def EventRow.event (row : EventRow) : Except Fault Event :=
  (storedDate row.date).map fun date =>
    { id := row.id, title := row.title, date := date, ticketLink := row.ticketLink,
      venueId := row.venueId, programmeId := row.programmeId, status := row.status,
      notes := row.notes }

/-- The stored biographies, one row after another. -/
structure Biographies where
  rows : List Biography := []
  deriving DecidableEq, Repr, Inhabited

namespace Biographies

/-- Whether a variant has a row. -/
def has (b : Biographies) (v : Biography.Variant) : Bool :=
  b.rows.any fun row => row.variant = v

/-- The stored text of a variant. -/
def get? (b : Biographies) (v : Biography.Variant) : Option String :=
  (b.rows.find? fun row => row.variant = v).map Biography.content

/-- The biographies with a new row, unless its variant has one. -/
def add (b : Biographies) (row : Biography) : Biographies :=
  if b.has row.variant then b else ⟨b.rows ++ [row]⟩

/-- The biographies with another text in the row of a variant. -/
def modify (b : Biographies) (v : Biography.Variant) (content : String) : Biographies :=
  ⟨b.rows.map fun row => if row.variant = v then { row with content := content } else row⟩

/-- The biographies with the text of a row, in the row of its variant or in a new one. -/
def put (b : Biographies) (row : Biography) : Biographies :=
  if b.has row.variant then b.modify row.variant row.content else ⟨b.rows ++ [row]⟩

/-- The biographies without the row of a variant. -/
def erase (b : Biographies) (v : Biography.Variant) : Biographies :=
  ⟨b.rows.filter fun row => row.variant ≠ v⟩

/-- The biographies with the text of a variant stored, or removed. -/
def set (b : Biographies) (content : Option String) (v : Biography.Variant) : Biographies :=
  match content with
  | some content => b.put ⟨content, v⟩
  | none => b.erase v

/-- The biographies with an empty text for each variant that has none. -/
def seeded (b : Biographies) : Biographies :=
  (b.add ⟨"", .full⟩).add ⟨"", .short⟩

theorem has_eq_isSome_get? (b : Biographies) (v : Biography.Variant) :
    b.has v = (b.get? v).isSome := by
  rw [get?, Option.isSome_map, List.isSome_find?]
  rfl

theorem get?_append (rows : List Biography) (row : Biography) (v : Biography.Variant) :
    get? ⟨rows ++ [row]⟩ v =
      (get? ⟨rows⟩ v).or (if row.variant = v then some row.content else none) := by
  simp only [get?, List.find?_append, Option.map_or, List.find?_singleton, decide_eq_true_eq]
  split <;> rfl

/-- A text that is there stays. -/
theorem get?_add (b : Biographies) (row : Biography) (v : Biography.Variant) :
    (b.add row).get? v = (b.get? v).or (if row.variant = v then some row.content else none) := by
  unfold add
  split
  · rename_i hhas
    rw [has_eq_isSome_get?] at hhas
    split
    · rename_i hv
      subst hv
      rw [Option.or_of_isSome hhas]
    · rw [Option.or_none]
  · exact get?_append b.rows row v

theorem get?_modify (b : Biographies) (v w : Biography.Variant) (content : String) :
    (b.modify v content).get? w = if w = v then (b.get? w).map fun _ => content else b.get? w := by
  unfold modify get?
  induction b.rows with
  | nil => simp
  | cons row rows ih =>
    simp only [List.map_cons, List.find?_cons]
    by_cases hv : row.variant = v
    · by_cases hw : v = w
      · simp [hv, hw]
      · simpa only [hv, hw, Ne.symm hw, if_true, if_false, decide_false] using ih
    · by_cases hw : row.variant = w
      · have : w ≠ v := fun h => hv (hw.trans h)
        simp [hw, this]
      · simpa only [hv, hw, if_false, decide_false] using ih

theorem get?_put (b : Biographies) (row : Biography) (v : Biography.Variant) :
    (b.put row).get? v = if v = row.variant then some row.content else b.get? v := by
  unfold put
  by_cases hhas : b.has row.variant = true
  · rw [if_pos hhas, get?_modify]
    rw [has_eq_isSome_get?] at hhas
    obtain ⟨content, hcontent⟩ := Option.isSome_iff_exists.1 hhas
    split
    · rename_i hv
      rw [hv, hcontent, Option.map_some]
    · rfl
  · rw [if_neg hhas, get?_append]
    rw [has_eq_isSome_get?, Option.not_isSome_iff_eq_none] at hhas
    by_cases hv : row.variant = v
    · subst hv
      rw [hhas, Option.none_or, if_pos rfl]
    · rw [if_neg hv, if_neg (Ne.symm hv), Option.or_none]

theorem get?_erase (b : Biographies) (v w : Biography.Variant) :
    (b.erase v).get? w = if w = v then none else b.get? w := by
  unfold erase get?
  rw [List.find?_filter]
  split
  · subst w
    simp
  · rename_i hw
    congr 2
    funext row
    by_cases h : row.variant = w
    · simp [h, hw]
    · simp [h]

theorem get?_set (b : Biographies) (content : Option String) (v w : Biography.Variant) :
    (b.set content v).get? w = if w = v then content else b.get? w := by
  cases content with
  | none => exact get?_erase b v w
  | some content => exact get?_put b ⟨content, v⟩ w

/-- Opening again changes no text that is there, and leaves every variant with one. -/
theorem get?_seeded (b : Biographies) (v : Biography.Variant) :
    b.seeded.get? v = some ((b.get? v).getD "") := by
  rw [seeded, get?_add, get?_add]
  cases v <;> cases b.get? _ <;> rfl

end Biographies

/-- All that is stored. -/
structure Catalogue where
  composers : Table Composer := {}
  pieces : Table Piece := {}
  programmes : Table Programme := {}
  slots : List Slot := []
  venues : Table Venue := {}
  events : Table EventRow := {}
  biographies : Biographies := {}
  deriving DecidableEq, Repr, Inhabited

namespace Catalogue

/-- The catalogue after it has been opened: a biography that is missing is empty. -/
def seeded (db : Catalogue) : Catalogue :=
  { db with biographies := db.biographies.seeded }

/-- A new catalogue. -/
def fresh : Catalogue :=
  ({} : Catalogue).seeded

/-- Whether a row of a kind has an id. -/
def has (db : Catalogue) : Kind → Int → Bool
  | .composer, id => db.composers.has id
  | .piece, id => db.pieces.has id
  | .programme, id => db.programmes.has id
  | .venue, id => db.venues.has id
  | .event, id => db.events.has id

/-- The number of rows of a kind. -/
def size (db : Catalogue) : Kind → Nat
  | .composer => db.composers.rows.length
  | .piece => db.pieces.rows.length
  | .programme => db.programmes.rows.length
  | .venue => db.venues.rows.length
  | .event => db.events.rows.length

/-- Whether a reference, if there is one, names a row. -/
def refers (db : Catalogue) (kind : Kind) : Option Int → Bool
  | none => true
  | some id => db.has kind id

/-- The slots of a programme. -/
def slotsOf (db : Catalogue) (programmeId : Int) : List Slot :=
  db.slots.filter fun slot => slot.programmeId = programmeId

end Catalogue

/-- Entities with a table of their own. -/
class Stored (α : Type) extends Keyed α where
  table : Catalogue → Table α
  setTable : Table α → Catalogue → Catalogue
  /-- Whether the references of a row name rows. -/
  refers : Catalogue → α → Bool

instance : Stored Composer where
  table := Catalogue.composers
  setTable t db := { db with composers := t }
  refers _ _ := true

instance : Stored Piece where
  table := Catalogue.pieces
  setTable t db := { db with pieces := t }
  refers db piece := db.has .composer piece.composerId

instance : Stored Programme where
  table := Catalogue.programmes
  setTable t db := { db with programmes := t }
  refers _ _ := true

instance : Stored Venue where
  table := Catalogue.venues
  setTable t db := { db with venues := t }
  refers _ _ := true

instance : Stored EventRow where
  table := Catalogue.events
  setTable t db := { db with events := t }
  refers db row := db.refers .venue row.venueId && db.refers .programme row.programmeId

/-- What may depend on an entity. -/
inductive Dependency where
  /-- The pieces of a composer. -/
  | composerPieces
  /-- The programmes with a piece. -/
  | pieceProgrammes
  /-- The published events at a venue. -/
  | venuePublishedEvents
  /-- The published events of a programme. -/
  | programmePublishedEvents
  /-- The slots of a programme. -/
  | programmePieces
  deriving DecidableEq, Repr, Inhabited

/-- How many rows depend on an id.  A programme with a piece in several slots counts once. -/
def Dependency.count (db : Catalogue) (id : Int) : Dependency → Nat
  | .composerPieces => db.pieces.rows.countP fun p => p.composerId = id
  | .pieceProgrammes =>
    ((db.slots.filter fun s => s.pieceId = id).map Slot.programmeId).eraseDups.length
  | .venuePublishedEvents =>
    db.events.rows.countP fun e => e.venueId = some id ∧ e.status = .published
  | .programmePublishedEvents =>
    db.events.rows.countP fun e => e.programmeId = some id ∧ e.status = .published
  | .programmePieces => (db.slotsOf id).length

end Recital
