import Recital.Proofs.Http.Effect

/-!
# Which orders give out ids

* `Order.inserts` : whether an order makes a new entity of a kind, as what it is about or by the intent within
  it.
* `Catalogue.Allots` : in each table whose kind is one of these, the next id is given out; in the others, none.
* `Effect.allots` : so does every order.  What an order fails at gives out nothing.
-/

set_option autoImplicit false

namespace Recital

/-- Whether an intent makes a new entity. -/
def Intent.creates {α : Type} (intent : Intent α) : Bool :=
  intent.operation = .create

/-- Whether an order makes a new entity of a kind. -/
def Http.Order.inserts : Order → Kind → Bool
  | .composer (.create _), .composer => true
  | .piece (.create _), .piece => true
  | .piece (.create command), .composer => command.composer.creates
  | .piece (.update _ command), .composer => command.composer.creates
  | .venue (.create _), .venue => true
  | .programme (.create _), .programme => true
  | .event (.create _), .event => true
  | .event (.create command), .venue => command.venue.any Intent.creates
  | .event (.update _ command), .venue => command.venue.any Intent.creates
  | _, _ => false

/-- An id is given out in each table of a kind that is inserted, and in no other. -/
structure Catalogue.Allots (db : Catalogue) (inserts : Kind → Bool) (db' : Catalogue) : Prop where
  composers : db.composers.Allots (inserts .composer) db'.composers := by exact .refl _
  pieces : db.pieces.Allots (inserts .piece) db'.pieces := by exact .refl _
  programmes : db.programmes.Allots (inserts .programme) db'.programmes := by exact .refl _
  venues : db.venues.Allots (inserts .venue) db'.venues := by exact .refl _
  events : db.events.Allots (inserts .event) db'.events := by exact .refl _

variable {db : Catalogue}

theorem Resolved.allots {α : Type} [Resolvable α] {intent : Intent α} {value : α} {t : Table α}
    (h : Resolved db intent value t) : (Stored.table db).Allots intent.creates t := by
  unfold Intent.creates
  cases h with
  | selected hop hrow =>
    rw [hop]
    exact .refl _
  | created hop hvalid hrefers hnew =>
    rw [hop]
    exact .insert? hnew
  | updated hop hvalid hrefers hhas =>
    rw [hop]
    exact .put

theorem Desk.VenueResolved.allots {command : EventCommand} {details : EventDetails} {t : Table Venue}
    (h : VenueResolved db command details t) :
    db.venues.Allots (command.venue.any Intent.creates) t := by
  cases h with
  | given hnone =>
    rw [hnone]
    exact .refl _
  | resolved hsome hvenue =>
    rw [hsome]
    exact hvenue.allots

namespace Http

variable {now : Instant} {db' : Catalogue} {order : Order} {r : Response}

theorem Order.inserts_of_isReading (h : order.isReading = true) (kind : Kind) :
    order.inserts kind = false := by
  unfold Order.inserts
  split <;> first | rfl | cases h

/-- **An order gives out one id in the table of each kind that it inserts, the next one, and no other
id.** -/
theorem Order.Effect.allots (h : order.Effect now db r db') : db.Allots order.inserts db' := by
  cases h with
  | reading hreading hsuccess =>
    have hnone : order.inserts = fun _ => false := funext (inserts_of_isReading hreading)
    rw [hnone]
    exact {}
  | createComposer hvalid hnew => exact { composers := .insert? hnew }
  | updateComposer hvalid hhas => exact { composers := .put }
  | deleteComposer hhas hfree => exact { composers := .erase }
  | createPiece hop hcomposer hvalid hnew =>
    exact { composers := hcomposer.allots, pieces := .insert? hnew }
  | updatePiece hop hcomposer hvalid hhas => exact { composers := hcomposer.allots, pieces := .put }
  | deletePiece hhas hfree => exact { pieces := .erase }
  | createVenue hop hvalid hnew => exact { venues := .insert? hnew }
  | updateVenue hop hvalid hhas => exact { venues := .put }
  | deleteVenue hhas hfree =>
    exact { venues := .erase, events := Statement.allots_withoutReference }
  | createProgramme hvalid hnew => exact { programmes := .insert? hnew }
  | updateProgramme hvalid hhas hfree => exact { programmes := .put }
  | replacePieces hhas hfree hpieces hshown => exact {}
  | deleteProgramme hhas hfree =>
    exact { programmes := .erase, events := Statement.allots_withoutReference }
  | createEvent hvenue htitle hrefers hnew hmade =>
    exact { venues := hvenue.allots, events := .insert? hnew }
  | updateEvent hrow hdraft hvenue htitle hrefers hmade hshown =>
    exact { venues := hvenue.allots, events := .put }
  | updateNotes hrow hmade => exact { events := .put }
  | draft hrow hmade => exact { events := .put }
  | archive hrow hmade => exact { events := .put }
  | publish hrow htitle hcomplete hpieced hmade => exact { events := .put }
  | deleteEvent hrow hdeletable => exact { events := .erase }
  | updateBiography hvariant => exact {}

end Http

end Recital
