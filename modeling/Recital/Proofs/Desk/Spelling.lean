import Recital.Proofs.Desk.Codecs
import Recital.Proofs.Entity.Forms
import Recital.Proofs.Json.Spelling

/-!
# Decoding does not depend on how an object is written

* `Shape` : the entities, the intents on them and the commands, each with its record.
* `Shape.isDefaulted` : those of which every member may be missing.
* `Shape.spelling_is_free` : members in any order, members of other names, members left out that are blank, and the
  array of the fields are all decoded as the same value.  A member given twice never is.
-/

set_option autoImplicit false

namespace Recital.Desk

open Json

/-- What is read of requests. -/
inductive Shape where
  | laid (layout : Layout)
  | pieceCommand | venueCommand | eventCommand
  deriving DecidableEq, Repr, Inhabited

namespace Shape

/-- What has the shape. -/
def Carrier : Shape → Type
  | laid layout => layout.Carrier
  | pieceCommand => PieceCommand
  | venueCommand => Intent Venue
  | eventCommand => EventCommand

/-- Its record. -/
def record : (shape : Shape) → Record shape.Carrier
  | laid layout => layout.record
  | pieceCommand => PieceCommand.record
  | venueCommand => Desk.venueCommand
  | eventCommand => EventCommand.record

theorem faithful : (shape : Shape) → shape.record.Faithful
  | laid layout => layout.faithful
  | pieceCommand => PieceCommand.faithful
  | venueCommand => venueCommand_faithful
  | eventCommand => EventCommand.faithful

/-- Whether every member may be missing. -/
def isDefaulted : Shape → Bool
  | laid .composer => true
  | laid .piece => true
  | laid .programme => true
  | laid .venue => true
  | laid .eventDetails => true
  | _ => false

theorem presence_of_isDefaulted {shape : Shape} (h : shape.isDefaulted = true) :
    ∀ f ∈ shape.record.fields, f.presence = .defaulted := by
  have hall : (shape.record.fields.all fun f => f.presence = .defaulted) = true := by
    unfold isDefaulted at h
    split at h
    · rfl
    · rfl
    · rfl
    · rfl
    · rfl
    · cases h
  simpa using hall

/-- **Decoding does not depend on how an object is written.**  A text that starts with a brace and is decoded is that of
an object.  It is decoded as the same value when its members stand in another order or are written otherwise, when
members of other names are added, when a member is left out whose value is the blank one of its field, and when the
values of the fields stand in an array.  With a second member of one field it is not decoded. -/
theorem spelling_is_free (shape : Shape) (extent : Extent) {text : String} {v : shape.Carrier}
    (hdecode : extent.decode shape.record.read text = .ok v)
    (hbrace : (skipGap text.toList).head? = some '\x7b') :
    (∃ o : WrittenObject, o.text = text) ∧
    (∀ o : WrittenObject, o.text = text → shape.record.Indifferent extent o v) ∧
    (shape.isDefaulted = true → ∀ f ∈ shape.record.fields, f.presence = .defaulted) := by
  refine ⟨shape.faithful.lawful.exists_object hdecode hbrace, ?_, presence_of_isDefaulted⟩
  rintro o rfl
  exact shape.faithful.indifferent hdecode

/-- A title and a venue, with a member too many and a date that is null. -/
def announcement : WrittenObject where
  before := [' ']
  gap := []
  members := [.of "venue_id" (.int 7), .of "poster" (.array [.object [], .int 1]), .of "date" .null,
    .of "title" (.string "\"Lied\"\n")]
  after := ['\n']
  gap_before := rfl
  gap_gap := rfl

/-- What is announced. -/
def announced : EventDetails :=
  { title := "\"Lied\"\n", venueId := some 7 }

theorem spelling_is_free_announcement :
    announcement.text =
      " \x7b\"venue_id\":7,\"poster\":[\x7b\x7d,1],\"date\":null,\"title\":\"\\\"Lied\\\"\\n\"\x7d\n" ∧
    Extent.whole.decode EventDetails.record.read announcement.text = .ok announced ∧
    EventDetails.record.Indifferent .whole announcement announced ∧
    Extent.whole.decode EventDetails.record.read "[\"\\\"Lied\\\"\\n\",null,null,7,null]" = .ok announced := by
  have hdecode : Extent.whole.decode EventDetails.record.read announcement.text = .ok announced := by decide +kernel
  obtain ⟨-, hindifferent, -⟩ :=
    spelling_is_free (.laid .eventDetails) .whole hdecode (by decide +kernel)
  have hfree := hindifferent announcement rfl
  have hrow : (Value.array (EventDetails.record.row announced)).render =
      "[\"\\\"Lied\\\"\\n\",null,null,7,null]" := by decide +kernel
  exact ⟨by decide +kernel, hdecode, hfree, hrow ▸ hfree.enlisted⟩

end Shape

end Recital.Desk
