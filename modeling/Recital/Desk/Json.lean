import Recital.Desk.Editing
import Recital.Desk.Scheduling
import Recital.Entity.Json

/-!
# JSON forms of the commands

* `PieceCommand.record`, `EventCommand.record` : the commands, intents within them.
* `venueCommand` : an intent on a venue, wrapped.
* `pieceList`, `biographyContent`, `notes` : bodies of one field.
-/

set_option autoImplicit false

namespace Recital.Desk

open Json

/-- The record of one field, wrapped around the value of the field. -/
def wrapped {α : Type} (name : String) (presence : Presence) (blank : α) (decoder : Decoder α)
    (write : α → Value) : Record α where
  blank := blank
  fields := [.of name presence decoder (fun v _ => v) write]

def PieceCommand.record : Record PieceCommand where
  blank := ⟨⟨.unsupported, {}, none⟩, ⟨.unsupported, {}, none⟩⟩
  fields := [
    .of "piece" .required (Intent.record Piece.record).read (fun v c => { c with piece := v }) fun c =>
      (Intent.record Piece.record).write c.piece,
    .of "composer" .required (Intent.record Composer.record).read
      (fun v c => { c with composer := v }) fun c => (Intent.record Composer.record).write c.composer]

/-- An intent on a venue, as the value of its one field. -/
def venueCommand : Record (Intent Venue) :=
  wrapped "venue" .required ⟨.unsupported, {}, none⟩ (Intent.record Venue.record).read
    (Intent.record Venue.record).write

def EventCommand.record : Record EventCommand where
  blank := ⟨{}, none, none⟩
  fields := [
    .of "event" .required EventDetails.record.read (fun v c => { c with event := v }) fun c =>
      EventDetails.record.write c.event,
    .of "venue" .defaulted (optional (Intent.record Venue.record).read)
      (fun v c => { c with venue := v }) fun c =>
        Value.ofOption (Intent.record Venue.record).write c.venue,
    .of "temp_id" .defaulted (optional text) (fun v c => { c with tempId := v }) fun c =>
      optionalText c.tempId]

/-- The ids of pieces in order. -/
def pieceList : Record (List Int) :=
  wrapped "piece_ids" .required [] (listOf integer) fun ids => .array (ids.map Value.int)

/-- The text of a biography. -/
def biographyContent : Record String :=
  wrapped "content" .required "" text Value.string

/-- The notes of an event, where nothing clears them. -/
def notes : Record (Option String) :=
  wrapped "notes" .nullable none (optional text) optionalText

end Recital.Desk
