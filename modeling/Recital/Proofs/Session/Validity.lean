import Recital.Proofs.Entity.Rules
import Recital.Proofs.Session.Run

/-!
# Stored rows are valid

Rows are written by many use cases, some of them for an entity that another one carries along.  All of them
look at the rules of the entity first.

* `Table.All` : every row has a property.  `All.insert?`, `All.put`, `All.erase` : how this is kept.
* `Catalogue.Valid` : every row of a composer, a piece, a programme or a venue is valid.
* `Resolved.valid` : an intent leaves a table of valid rows, whatever it asks for.
* `Effect.valid` : so does every order.
* `rows_valid` : after every run, each text that a row must have is visible.
-/

set_option autoImplicit false

namespace Recital

/-! ## Properties of all rows -/

namespace Table

variable {α : Type} [Keyed α] {t t' : Table α} {row new : α} {id : Int} {P : α → Prop}

/-- Every row has the property. -/
def All (t : Table α) (P : α → Prop) : Prop :=
  ∀ row ∈ t.rows, P row

theorem All.insert? (h : t.All P) (hi : t.insert? row = some (new, t')) (hnew : P new) : t'.All P := by
  intro r hr
  rcases mem_insert? hi hr with hr | rfl
  · exact h r hr
  · exact hnew

theorem All.put (h : t.All P) (hrow : P row) : (t.put row).All P := by
  intro r hr
  rcases mem_put hr with hr | rfl
  · exact h r hr
  · exact hrow

theorem All.erase (h : t.All P) : (t.erase id).All P :=
  fun r hr => h r (mem_erase.1 hr).1

end Table

/-! ## Valid rows -/

/-- Every row of a composer, a piece, a programme or a venue is valid. -/
structure Catalogue.Valid (db : Catalogue) : Prop where
  composers : db.composers.All fun c => c.validate = .ok ()
  pieces : db.pieces.All fun p => p.validate = .ok ()
  programmes : db.programmes.All fun p => p.validate = .ok ()
  venues : db.venues.All fun v => v.validate = .ok ()

/-- What an intent selects is valid already, and what it writes is looked at first. -/
theorem Resolved.valid {α : Type} [Resolvable α] {db : Catalogue} {intent : Intent α} {value : α}
    {t : Table α} (h : Resolved db intent value t)
    (hid : ∀ (id : Int) (row : α), Resolvable.validate (Keyed.withId id row) = Resolvable.validate row)
    (hvalid : (Stored.table db).All fun row : α => Resolvable.validate row = .ok ()) :
    t.All fun row => Resolvable.validate row = .ok () := by
  cases h with
  | selected hop hrow => exact hvalid
  | created hop hdata hrefers hnew =>
    refine hvalid.insert? hnew ?_
    rw [(Table.new_of_insert? hnew).1, hid]
    exact hdata
  | updated hop hdata hrefers hhas => exact hvalid.put hdata

namespace Catalogue.Valid

variable {db : Catalogue}

theorem fresh : fresh.Valid :=
  ⟨nofun, nofun, nofun, nofun⟩

theorem seeded (h : db.Valid) : db.seeded.Valid :=
  ⟨h.composers, h.pieces, h.programmes, h.venues⟩

/-- The composer of a piece is resolved. -/
theorem resolvedComposer (h : db.Valid) {intent : Intent Composer} {composer : Composer}
    {cs : Table Composer} (hcomposer : Resolved db intent composer cs) :
    cs.All fun c => c.validate = .ok () :=
  hcomposer.valid (fun _ _ => rfl) h.composers

/-- The venue of an event is resolved. -/
theorem resolvedVenue (h : db.Valid) {command : Desk.EventCommand} {details : EventDetails}
    {vs : Table Venue} (hvenue : Desk.VenueResolved db command details vs) :
    vs.All fun v => v.validate = .ok () := by
  cases hvenue with
  | given hnone => exact h.venues
  | resolved hsome hvenue => exact hvenue.valid (fun _ _ => rfl) h.venues

end Catalogue.Valid

/-- **Every order leaves valid rows.** -/
theorem Http.Order.Effect.valid {now : Instant} {db db' : Catalogue} {order : Order} {r : Response}
    (h : order.Effect now db r db') (hv : db.Valid) : db'.Valid := by
  cases h with
  | createComposer hvalid hnew =>
    refine { hv with composers := hv.composers.insert? hnew ?_ }
    rw [(Table.new_of_insert? hnew).1]
    exact hvalid
  | updateComposer hvalid hhas => exact { hv with composers := hv.composers.put hvalid }
  | deleteComposer hhas hfree => exact { hv with composers := hv.composers.erase }
  | createPiece hop hcomposer hvalid hnew =>
    refine { hv with
      composers := hv.resolvedComposer hcomposer
      pieces := hv.pieces.insert? hnew ?_ }
    rw [(Table.new_of_insert? hnew).1]
    exact hvalid
  | updatePiece hop hcomposer hvalid hhas =>
    exact { hv with
      composers := hv.resolvedComposer hcomposer
      pieces := hv.pieces.put hvalid }
  | deletePiece hhas hfree => exact { hv with pieces := hv.pieces.erase }
  | createVenue hop hvalid hnew =>
    refine { hv with venues := hv.venues.insert? hnew ?_ }
    rw [(Table.new_of_insert? hnew).1]
    exact hvalid
  | updateVenue hop hvalid hhas => exact { hv with venues := hv.venues.put hvalid }
  | deleteVenue hhas hfree => exact { hv with venues := hv.venues.erase }
  | createProgramme hvalid hnew =>
    refine { hv with programmes := hv.programmes.insert? hnew ?_ }
    rw [(Table.new_of_insert? hnew).1]
    exact hvalid
  | updateProgramme hvalid hhas hfree => exact { hv with programmes := hv.programmes.put hvalid }
  | deleteProgramme hhas hfree => exact { hv with programmes := hv.programmes.erase }
  | createEvent hvenue htitle hrefers hnew hmade =>
    exact { hv with venues := hv.resolvedVenue hvenue }
  | updateEvent hrow hdraft hvenue htitle hrefers hmade hshown =>
    exact { hv with venues := hv.resolvedVenue hvenue }
  | _ => exact { hv with }

namespace Session

open Text (Visible)

theorem valid_after (visits : List (Instant × Visit)) : (after visits).catalogue.Valid :=
  after_induction Catalogue.Valid.fresh Catalogue.Valid.seeded Http.Order.Effect.valid visits

/-- **Every stored row is valid**, whatever has reached the service and whichever order wrote it: each text
that it must have shows a character that is not white space. -/
theorem rows_valid (visits : List (Instant × Visit)) :
    (∀ c ∈ (after visits).catalogue.composers.rows,
      c.validate = .ok () ∧ Visible c.fullName ∧ Visible c.shortName) ∧
    (∀ p ∈ (after visits).catalogue.pieces.rows, p.validate = .ok () ∧ Visible p.title) ∧
    (∀ p ∈ (after visits).catalogue.programmes.rows, p.validate = .ok () ∧ Visible p.title) ∧
    (∀ v ∈ (after visits).catalogue.venues.rows,
      v.validate = .ok () ∧ Visible v.name ∧ Visible v.fullAddress ∧ Visible v.shortAddress) ∧
    ∀ row ∈ (after visits).catalogue.events.rows,
      ∃ e, row.event = .ok e ∧ e.validate = .ok () ∧ Visible row.title := by
  have hvalid := valid_after visits
  have hsound := (serving_after visits).sound
  refine ⟨fun c hc => ?_, fun p hp => ?_, fun p hp => ?_, fun v hv => ?_, fun row hrow => ?_⟩
  · have h := hvalid.composers c hc
    exact ⟨h, Composer.validate_eq_ok_iff.1 h⟩
  · have h := hvalid.pieces p hp
    exact ⟨h, Piece.validate_eq_ok_iff.1 h⟩
  · have h := hvalid.programmes p hp
    exact ⟨h, Programme.validate_eq_ok_iff.1 h⟩
  · have h := hvalid.venues v hv
    exact ⟨h, Venue.validate_eq_ok_iff.1 h⟩
  · have hevent := hsound.events row hrow
    have htitle := Text.isBlank_eq_false_iff.1 hevent.title
    obtain ⟨e, he⟩ := hevent.readable.event
    exact ⟨e, he, Event.validate_eq_ok_iff.2 ((EventRow.shownAs_of_event he).title ▸ htitle), htitle⟩

end Session

end Recital
