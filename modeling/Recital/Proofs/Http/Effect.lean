import Recital.Http.Service
import Recital.Proofs.Desk.Resolution

/-!
# Effects of orders

* `Order.isReading` : the orders that only show something.
* `Order.Effect` : the successful responses to an order, each with the catalogue that it leaves.  Every
  constructor names the conditions under which the order succeeds.
* `Effect.isSuccess`, `Effect.eq_of_isReading` : an effect is answered as one; reading has none.
-/

set_option autoImplicit false

namespace Recital.Http

/-- Whether an order only shows something. -/
def Order.isReading : Order → Bool
  | .health => true
  | .composer .list => true
  | .composer (.get _) => true
  | .piece .list => true
  | .piece (.get _) => true
  | .venue .list => true
  | .venue (.get _) => true
  | .programme .list => true
  | .programme (.get _) => true
  | .programme (.details _) => true
  | .event (.list _) => true
  | .event (.listWithTimes _) => true
  | .event (.get _) => true
  | .showBiography _ => true
  | _ => false

open Desk Listing Statement

/-- The successful responses to an order at the moment `now`, each with the catalogue that it leaves. -/
inductive Order.Effect (now : Instant) (db : Catalogue) : Order → Response → Catalogue → Prop where
  | reading {order : Order} {r : Response} (hreading : order.isReading = true)
      (hsuccess : r.isSuccess = true) : Effect now db order r db
  | createComposer {c new : Composer} {t : Table Composer} (hvalid : c.validate = .ok ())
      (hnew : db.composers.insert? c = some (new, t)) :
      Effect now db (.composer (.create c)) (.created none new) { db with composers := t }
  | updateComposer {id : Int} {c : Composer} (hvalid : c.validate = .ok ())
      (hhas : db.composers.has id = true) :
      Effect now db (.composer (.update id c)) (.shown { c with id := id })
        { db with composers := db.composers.put { c with id := id } }
  | deleteComposer {id : Int} (hhas : db.composers.has id = true)
      (hfree : ∀ p ∈ db.pieces.rows, p.composerId ≠ id) :
      Effect now db (.composer (.delete id)) .noContent
        { db with composers := db.composers.erase id }
  | createPiece {command : PieceCommand} {composer : Composer} {new : Piece}
      {cs : Table Composer} {ps : Table Piece} (hop : command.piece.operation = .create)
      (hcomposer : Resolved db command.composer composer cs)
      (hvalid : command.piece.data.validate = .ok ())
      (hnew : db.pieces.insert? { command.piece.data with composerId := composer.id } =
        some (new, ps)) :
      Effect now db (.piece (.create command)) (.created command.piece.tempId new)
        { db with composers := cs, pieces := ps }
  | updatePiece {id : Int} {command : PieceCommand} {composer : Composer} {cs : Table Composer}
      (hop : command.piece.operation = .update)
      (hcomposer : Resolved db command.composer composer cs)
      (hvalid : command.piece.data.validate = .ok ()) (hhas : db.pieces.has id = true) :
      Effect now db (.piece (.update id command))
        (.shown { command.piece.data with id := id, composerId := composer.id })
        { db with
          composers := cs
          pieces := db.pieces.put { command.piece.data with id := id, composerId := composer.id } }
  | deletePiece {id : Int} (hhas : db.pieces.has id = true)
      (hfree : ∀ s ∈ db.slots, s.pieceId ≠ id) :
      Effect now db (.piece (.delete id)) .noContent { db with pieces := db.pieces.erase id }
  | createVenue {venue : Intent Venue} {new : Venue} {t : Table Venue}
      (hop : venue.operation = .create) (hvalid : venue.data.validate = .ok ())
      (hnew : db.venues.insert? venue.data = some (new, t)) :
      Effect now db (.venue (.create venue)) (.created venue.tempId new) { db with venues := t }
  | updateVenue {id : Int} {venue : Intent Venue} (hop : venue.operation = .update)
      (hvalid : venue.data.validate = .ok ()) (hhas : db.venues.has id = true) :
      Effect now db (.venue (.update id venue)) (.shown { venue.data with id := id })
        { db with venues := db.venues.put { venue.data with id := id } }
  | deleteVenue {id : Int} (hhas : db.venues.has id = true) (hfree : ¬ db.Hosting id) :
      Effect now db (.venue (.delete id)) .noContent
        { db with
          venues := db.venues.erase id
          events := withoutReference .venue id db.events }
  | createProgramme {p new : Programme} {t : Table Programme} (hvalid : p.validate = .ok ())
      (hnew : db.programmes.insert? p = some (new, t)) :
      Effect now db (.programme (.create p)) (.created none new) { db with programmes := t }
  | updateProgramme {id : Int} {p : Programme} (hvalid : p.validate = .ok ())
      (hhas : db.programmes.has id = true) (hfree : ¬ db.Performed id) :
      Effect now db (.programme (.update id p)) (.shown { p with id := id })
        { db with programmes := db.programmes.put { p with id := id } }
  | replacePieces {id : Int} {pieceIds : List Int} {shown : Programme.WithPieces}
      (hhas : db.programmes.has id = true) (hfree : ¬ db.Performed id)
      (hpieces : ∀ k ∈ pieceIds, db.pieces.has k = true)
      (hshown : (programmeWithPieces id).run { db with slots := db.replacedSlots id pieceIds } =
        (.ok shown, { db with slots := db.replacedSlots id pieceIds })) :
      Effect now db (.programme (.replacePieces id pieceIds)) (.shown shown)
        { db with slots := db.replacedSlots id pieceIds }
  | deleteProgramme {id : Int} (hhas : db.programmes.has id = true) (hfree : ¬ db.Performed id) :
      Effect now db (.programme (.delete id)) .noContent
        { db with
          programmes := db.programmes.erase id
          slots := db.slots.filter fun s => s.programmeId ≠ id
          events := withoutReference .programme id db.events }
  | createEvent {command : EventCommand} {details : EventDetails} {vs : Table Venue} {new : EventRow}
      {made : Event} {t : Table EventRow} (hvenue : VenueResolved db command details vs)
      (htitle : Text.isBlank details.title = false)
      (hrefers : { db with venues := vs }.Refers (EventRow.ofEvent now (Event.draft details)))
      (hnew : db.events.insert? (EventRow.ofEvent now (Event.draft details)) = some (new, t))
      (hmade : new.event = .ok made) :
      Effect now db (.event (.create command)) (.created command.tempId made)
        { db with venues := vs, events := t }
  | updateEvent {id : Int} {command : EventCommand} {row : EventRow} {details : EventDetails}
      {vs : Table Venue} {made : Event} {shown : Event.WithProgramme}
      (hrow : db.events.find? id = some row) (hdraft : row.status = .draft)
      (hvenue : VenueResolved db command details vs)
      (htitle : Text.isBlank details.title = false)
      (hrefers : { db with venues := vs }.Refers (row.edited now details))
      (hmade : (row.edited now details).event = .ok made)
      (hshown : (withProgramme made).run
          { db with venues := vs, events := db.events.put (row.edited now details) } =
        (.ok shown, { db with venues := vs, events := db.events.put (row.edited now details) })) :
      Effect now db (.event (.update id command)) (.shown shown)
        { db with venues := vs, events := db.events.put (row.edited now details) }
  | updateNotes {id : Int} {notes : Option String} {row : EventRow} {made : Event}
      (hrow : db.events.find? id = some row) (hmade : (row.annotated now notes).event = .ok made) :
      Effect now db (.event (.updateNotes id notes)) (.shown made)
        { db with events := db.events.put (row.annotated now notes) }
  | draft {id : Int} {row : EventRow} {made : Event} (hrow : db.events.find? id = some row)
      (hmade : (row.moved now .draft).event = .ok made) :
      Effect now db (.event (.draft id)) (.shown made)
        { db with events := db.events.put (row.moved now .draft) }
  | archive {id : Int} {row : EventRow} {made : Event} (hrow : db.events.find? id = some row)
      (hmade : (row.moved now .archived).event = .ok made) :
      Effect now db (.event (.archive id)) (.shown made)
        { db with events := db.events.put (row.moved now .archived) }
  | publish {id : Int} {row : EventRow} {made : Event} (hrow : db.events.find? id = some row)
      (htitle : Text.isBlank row.title = false) (hcomplete : row.Complete)
      (hpieced : ∀ p, row.programmeId = some p → db.slotsOf p ≠ [])
      (hmade : (row.moved now .published).event = .ok made) :
      Effect now db (.event (.publish id)) (.shown made)
        { db with events := db.events.put (row.moved now .published) }
  | deleteEvent {id : Int} {row : EventRow} (hrow : db.events.find? id = some row)
      (hdeletable : row.status ≠ .published) :
      Effect now db (.event (.delete id)) .noContent { db with events := db.events.erase id }
  | updateBiography {name content : String} {variant : Biography.Variant}
      (hvariant : Biography.Variant.parse name = .ok variant) :
      Effect now db (.updateBiography name content) (.shown (⟨content, variant⟩ : Biography))
        { db with biographies := db.biographies.set (some content) variant }

variable {now : Instant} {db db' : Catalogue} {order : Order} {r : Response}

/-- Reading leaves the catalogue as it is. -/
theorem Order.Effect.eq_of_isReading (h : order.Effect now db r db') (hr : order.isReading = true) :
    db' = db := by
  cases h with
  | reading hreading hsuccess => rfl
  | _ => cases hr

theorem Order.Effect.isSuccess (h : order.Effect now db r db') : r.isSuccess = true := by
  cases h with
  | reading hreading hsuccess => exact hsuccess
  | _ => rfl

end Recital.Http
