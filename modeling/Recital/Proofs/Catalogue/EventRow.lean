import Recital.Catalogue.Listing
import Recital.Entity.Rules
import Recital.Proofs.Catalogue.Statement
import Recital.Proofs.Instant.Stored

/-!
# Rows of events

* `EventRow.ofEvent`, `EventRow.edited`, `EventRow.annotated`, `EventRow.moved` : the rows that are
  written, and the statements that write them.
* `EventRow.without_eq`, `EventRow.reference_without` : what a row loses with a venue or a programme.
* `event_ofEvent`, `event_edited`, … : the events that these rows show.  `EventRow.ShownAs` : what every event that is
  read has of its row.
* `EventRow.Readable` : the dates of a row are stored instants.  `Readable.event` : such a row decodes.
* `EventRow.Complete` : nothing that a published event needs is missing; `complete_of_publishable`.
-/

set_option autoImplicit false

namespace Recital

/-- The fields of an event that its editor may change. -/
def Event.details (e : Event) : EventDetails :=
  ⟨e.title, e.date, e.ticketLink, e.venueId, e.programmeId⟩

theorem Event.isBlank_title_of_validate {e : Event} (h : e.validate = .ok ()) :
    Text.isBlank e.title = false := by
  simp only [Event.validate, firstBlank] at h
  split at h
  · cases h
  · rename_i hb
    simpa using hb

theorem Event.status_of_mutable {e : Event} {u : Unit} (h : e.mutable = .ok u) :
    e.status = .draft := by
  unfold Event.mutable at h
  split at h
  · assumption
  · cases h
  · cases h

theorem Event.isBusinessRule_of_mutable {e : Event} {f : Fault} (h : e.mutable = .error f) :
    f.isBusinessRule = true := by
  unfold Event.mutable at h
  split at h
  · cases h
  · cases h
    rfl
  · cases h
    rfl

theorem Event.status_of_deletable {e : Event} {u : Unit} (h : e.deletable = .ok u) :
    e.status ≠ .published := by
  intro hs
  simp only [Event.deletable, hs] at h
  cases h

theorem Event.isBusinessRule_of_deletable {e : Event} {f : Fault} (h : e.deletable = .error f) :
    f.isBusinessRule = true := by
  unfold Event.deletable at h
  split at h
  · cases h
    rfl
  · cases h
  · cases h

namespace EventRow

variable {row : EventRow} {now : Instant} {e : Event}

/-! ## Rows that are written -/

/-- The row of a new event. -/
def ofEvent (now : Instant) (e : Event) : EventRow :=
  { title := e.title, date := e.date.map Instant.stored, ticketLink := e.ticketLink,
    venueId := e.venueId, programmeId := e.programmeId, status := e.status, notes := e.notes,
    createdAt := now.stored, updatedAt := now.stored }

/-- The row with its details replaced. -/
def edited (row : EventRow) (now : Instant) (details : EventDetails) : EventRow :=
  { row with
    title := details.title
    date := details.date.map Instant.stored
    ticketLink := details.ticketLink
    venueId := details.venueId
    programmeId := details.programmeId
    updatedAt := now.stored }

/-- The row with its notes replaced. -/
def annotated (row : EventRow) (now : Instant) (notes : Option String) : EventRow :=
  { row with notes := notes, updatedAt := now.stored }

/-- The row with its status replaced. -/
def moved (row : EventRow) (now : Instant) (status : Status) : EventRow :=
  { row with status := status, updatedAt := now.stored }

section References

variable {r s : Reference} {id : Int}

theorem without_of_eq (h : row.reference r = some id) : row.without r id = row.cleared r :=
  if_pos h

theorem without_of_ne (h : row.reference r ≠ some id) : row.without r id = row :=
  if_neg h

/-- A removed venue or programme costs a row nothing but the reference to it. -/
theorem without_eq (r : Reference) (id : Int) : row.without r id =
    { row with
      venueId := (row.without r id).venueId
      programmeId := (row.without r id).programmeId } := by
  unfold without
  split
  · cases r <;> rfl
  · rfl

/-- Of its references a row loses the one to what is removed; the other one stays. -/
theorem reference_without : (row.without r id).reference s =
    if s = r ∧ row.reference r = some id then none else row.reference s := by
  by_cases h : row.reference r = some id
  · rw [without_of_eq h]
    simp only [h, and_true]
    cases r <;> cases s <;> rfl
  · rw [without_of_ne h, if_neg fun hboth => h hboth.2]

theorem id_without (r : Reference) (id : Int) (row : EventRow) :
    Keyed.id (row.without r id) = Keyed.id row := by
  rw [without_eq]
  rfl

end References

/-! ## Rows that are read -/

theorem storedInstant_stored (i : Instant) : storedInstant i.stored = .ok i := by
  simp only [storedInstant, Instant.ofStored?_stored]

theorem storedDate_map_stored (d : Option Instant) : storedDate (d.map Instant.stored) = .ok d := by
  cases d with
  | none => rfl
  | some i => simp [storedDate, storedInstant_stored, Except.map]

/-- The event of a row has its fields, and its date is the one that the text of the row stores. -/
theorem event_eq_ok_iff : row.event = .ok e ↔
    ∃ d, storedDate row.date = .ok d ∧ e =
      { id := row.id, title := row.title, date := d, ticketLink := row.ticketLink,
        venueId := row.venueId, programmeId := row.programmeId, status := row.status,
        notes := row.notes } := by
  unfold EventRow.event
  cases storedDate row.date with
  | error f => simp [Except.map]
  | ok d =>
    simp only [Except.map, Except.ok.injEq]
    constructor
    · rintro rfl
      exact ⟨d, rfl, rfl⟩
    · rintro ⟨_, rfl, rfl⟩
      rfl

theorem event_eq (row : EventRow) {d : Option Instant} (hd : row.date = d.map Instant.stored) :
    row.event = .ok
    { id := row.id, title := row.title, date := d, ticketLink := row.ticketLink,
      venueId := row.venueId, programmeId := row.programmeId, status := row.status,
      notes := row.notes } :=
  event_eq_ok_iff.2 ⟨d, by rw [hd, storedDate_map_stored], rfl⟩

/-- An event has the columns of a row; of the date nothing is said. -/
structure ShownAs (row : EventRow) (e : Event) : Prop where
  id : e.id = row.id
  title : e.title = row.title
  ticketLink : e.ticketLink = row.ticketLink
  venueId : e.venueId = row.venueId
  programmeId : e.programmeId = row.programmeId
  status : e.status = row.status
  notes : e.notes = row.notes

theorem shownAs_of_event (h : row.event = .ok e) : row.ShownAs e := by
  obtain ⟨d, -, rfl⟩ := event_eq_ok_iff.1 h
  exact ⟨rfl, rfl, rfl, rfl, rfl, rfl, rfl⟩

/-- The row of a new event shows it under the id that it has got. -/
theorem event_ofEvent (id : Int) (made : Event) :
    (Keyed.withId id (ofEvent now made)).event = .ok { made with id := id } :=
  event_eq (Keyed.withId id (ofEvent now made) : EventRow) rfl

theorem event_edited (h : row.event = .ok e) (details : EventDetails) :
    (row.edited now details).event = .ok (e.apply details) := by
  obtain ⟨d, -, rfl⟩ := event_eq_ok_iff.1 h
  exact event_eq (row.edited now details) rfl

theorem event_annotated (h : row.event = .ok e) (notes : Option String) :
    (row.annotated now notes).event = .ok { e with notes := notes } := by
  obtain ⟨d, hd, rfl⟩ := event_eq_ok_iff.1 h
  exact event_eq_ok_iff.2 ⟨d, hd, rfl⟩

theorem event_moved (h : row.event = .ok e) (status : Status) :
    (row.moved now status).event = .ok { e with status := status } := by
  obtain ⟨d, hd, rfl⟩ := event_eq_ok_iff.1 h
  exact event_eq_ok_iff.2 ⟨d, hd, rfl⟩

/-- The dates of a row are stored instants. -/
structure Readable (row : EventRow) : Prop where
  date : ∃ d : Option Instant, row.date = d.map Instant.stored
  createdAt : ∃ i : Instant, row.createdAt = i.stored
  updatedAt : ∃ i : Instant, row.updatedAt = i.stored

theorem Readable.event (h : row.Readable) : ∃ e, row.event = .ok e := by
  obtain ⟨d, hd⟩ := h.date
  exact ⟨_, event_eq_ok_iff.2 ⟨d, by rw [hd, storedDate_map_stored], rfl⟩⟩

theorem Readable.not_error (h : row.Readable) {f : Fault} : row.event ≠ .error f := by
  obtain ⟨e, he⟩ := h.event
  rw [he]
  intro hf
  cases hf

/-- A readable row decodes with its times. -/
theorem Readable.eventWithTimes (h : row.Readable) : ∃ e, Listing.eventWithTimes row = .ok e := by
  obtain ⟨e, he⟩ := h.event
  obtain ⟨i, hi⟩ := h.createdAt
  obtain ⟨j, hj⟩ := h.updatedAt
  refine ⟨⟨e, i, j⟩, ?_⟩
  simp only [Listing.eventWithTimes, he, hi, hj, storedInstant_stored]
  rfl

theorem readable_ofEvent : (ofEvent now e).Readable :=
  ⟨⟨e.date, rfl⟩, ⟨now, rfl⟩, ⟨now, rfl⟩⟩

theorem Readable.withId (h : row.Readable) {id : Int} : (Keyed.withId id row).Readable :=
  ⟨h.date, h.createdAt, h.updatedAt⟩

theorem Readable.edited (h : row.Readable) {details : EventDetails} :
    (row.edited now details).Readable :=
  ⟨⟨details.date, rfl⟩, h.createdAt, ⟨now, rfl⟩⟩

theorem Readable.annotated (h : row.Readable) {notes : Option String} :
    (row.annotated now notes).Readable :=
  ⟨h.date, h.createdAt, ⟨now, rfl⟩⟩

theorem Readable.moved (h : row.Readable) {status : Status} : (row.moved now status).Readable :=
  ⟨h.date, h.createdAt, ⟨now, rfl⟩⟩

theorem Readable.without (h : row.Readable) {r : Reference} {id : Int} :
    (row.without r id).Readable := by
  rw [without_eq]
  exact ⟨h.date, h.createdAt, h.updatedAt⟩

/-! ## Rows of published events -/

/-- Nothing that a published event needs is missing. -/
structure Complete (row : EventRow) : Prop where
  date : row.date.isSome = true
  ticketLink : ∃ link, row.ticketLink = some link ∧ Text.isBlank link = false
  venue : ∃ id, row.venueId = some id
  programme : ∃ id, row.programmeId = some id

/-- A row whose event may be published is complete. -/
theorem complete_of_publishable (he : row.event = .ok e) (hp : e.publishable = .ok ()) :
    row.Complete := by
  obtain ⟨d, hd, rfl⟩ := event_eq_ok_iff.1 he
  unfold Event.publishable at hp
  simp only at hp
  split at hp
  · cases hp
  rename_i hdate
  split at hp
  · cases hp
  rename_i hlink
  split at hp
  · cases hp
  rename_i hvenue
  split at hp
  · cases hp
  rename_i hprogramme
  refine ⟨?_, ?_, ?_, ?_⟩
  · -- without a text there would be no date
    cases hr : row.date with
    | some s => rfl
    | none =>
      rw [hr] at hd
      cases hd
      exact absurd rfl hdate
  · cases hl : row.ticketLink with
    | none => simp [hl] at hlink
    | some link => exact ⟨link, rfl, by simpa [hl] using hlink⟩
  · exact Option.ne_none_iff_exists'.1 (by simpa using hvenue)
  · exact Option.ne_none_iff_exists'.1 (by simpa using hprogramme)

end EventRow

/-! ## Statements on rows of events -/

namespace Statement

open Step

section References

variable {events : Table EventRow} {r : EventRow.Reference} {row : EventRow} {id k : Int}

theorem mem_withoutReference : row ∈ (withoutReference r id events).rows ↔
    ∃ old ∈ events.rows, old.without r id = row :=
  List.mem_map

theorem sound_withoutReference (h : events.Sound) : (withoutReference r id events).Sound :=
  h.mapRows (EventRow.id_without r id)

theorem allots_withoutReference : events.Allots false (withoutReference r id events) :=
  .mapRows (EventRow.id_without r id)

theorem find?_withoutReference :
    (withoutReference r id events).find? k = (events.find? k).map fun row => row.without r id :=
  Table.find?_mapRows (EventRow.id_without r id)

/-- An event that refers to what is removed loses the reference. -/
theorem find?_withoutReference_of_eq (hrow : events.find? k = some row)
    (h : row.reference r = some id) :
    (withoutReference r id events).find? k = some (row.cleared r) := by
  rw [find?_withoutReference, hrow, Option.map_some, EventRow.without_of_eq h]

/-- The other events stay as they are. -/
theorem find?_withoutReference_of_ne
    (h : ∀ row ∈ events.rows, row.reference r = some id → row.id ≠ k) :
    (withoutReference r id events).find? k = events.find? k := by
  rw [find?_withoutReference]
  cases hrow : events.find? k with
  | none => rfl
  | some row =>
    have hne : row.reference r ≠ some id := fun hreference =>
      h row (Table.mem_of_find? hrow) hreference (Table.id_of_find? hrow)
    rw [Option.map_some, EventRow.without_of_ne hne]

end References

variable {db : Catalogue} {E : Fault → Catalogue → Prop} {Q : Event → Catalogue → Prop}
variable {now : Instant} {id : Int} {e : Event} {row : EventRow}

/-- What is read back of a readable row. -/
theorem meets_event (h : row.Readable) (hQ : ∀ e, row.event = .ok e → Q e db) :
    (check row.event).Meets db Q E := by
  obtain ⟨e, he⟩ := h.event
  rw [he]
  exact hQ e he

/-- A new event is read back from its row. -/
theorem meets_insertEvent (hrefers : Stored.refers db (EventRow.ofEvent now e) = true)
    (hnew : ∀ new t, db.events.insert? (EventRow.ofEvent now e) = some (new, t) →
      ∀ made, new.event = .ok made → Q made { db with events := t })
    (hfull : db.events.insert? (EventRow.ofEvent now e) = none → E .database db) :
    (insertEvent now e).Meets db Q E := by
  unfold insertEvent
  rw [meets_bind]
  refine meets_insert.2 ⟨fun _ => ⟨fun new t hi => ?_, hfull⟩, fun hr => ?_⟩
  · have hread : new.Readable := by
      rw [(Table.new_of_insert? hi).1]
      exact EventRow.readable_ofEvent.withId
    exact meets_event hread (hnew new t hi)
  · cases hrefers.symm.trans hr

/-- A stored row is changed to a readable one and read back. -/
theorem meets_changeEvent_of_ok {change : Catalogue → EventRow → Except Fault EventRow}
    {new : EventRow} (hrow : db.events.find? id = some row) (hnew : change db row = .ok new)
    (hread : new.Readable)
    (hQ : ∀ made, new.event = .ok made → Q made { db with events := db.events.put new }) :
    (changeEvent id change).Meets db Q E := by
  refine meets_changeEvent.2 ⟨fun row' hrow' => ?_, fun hnone => ?_⟩
  · obtain rfl : row = row' := Option.some.inj (hrow.symm.trans hrow')
    refine ⟨fun new' hnew' => ?_, fun f hf => ?_⟩
    · obtain rfl : new = new' := Except.ok.inj (hnew.symm.trans hnew')
      exact ⟨hQ, fun f hf => absurd hf hread.not_error⟩
    · cases hnew.symm.trans hf
  · cases hrow.symm.trans hnone

theorem meets_updateEvent (hrow : db.events.find? e.id = some row) (hread : row.Readable)
    (hrefers : Stored.refers db (row.edited now e.details) = true)
    (hQ : ∀ made, (row.edited now e.details).event = .ok made →
      Q made { db with events := db.events.put (row.edited now e.details) }) :
    (updateEvent now e).Meets db Q E := by
  have hread' : (row.edited now e.details).Readable := hread.edited
  refine meets_changeEvent_of_ok hrow ?_ hread' hQ
  exact if_pos hrefers

theorem meets_updateNotes {notes : Option String} (hrow : db.events.find? id = some row)
    (hread : row.Readable)
    (hQ : ∀ made, (row.annotated now notes).event = .ok made →
      Q made { db with events := db.events.put (row.annotated now notes) }) :
    (updateNotes now id notes).Meets db Q E :=
  meets_changeEvent_of_ok hrow rfl hread.annotated hQ

theorem meets_setStatus {status : Status} (hrow : db.events.find? id = some row)
    (hread : row.Readable)
    (hQ : ∀ made, (row.moved now status).event = .ok made →
      Q made { db with events := db.events.put (row.moved now status) }) :
    (setStatus now id status).Meets db Q E :=
  meets_changeEvent_of_ok hrow rfl hread.moved hQ

end Statement

end Recital
