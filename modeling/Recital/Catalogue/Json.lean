import Recital.Catalogue.Listing
import Recital.Entity.Json

/-!
# JSON forms of the listings

The objects in which answers show entities with counts, programmes with pieces, and events with their
programme or their times.
-/

set_option autoImplicit false

namespace Recital

open Json Showable

instance : Showable Composer.Details where
  encode d := .object [("composer", encode d.composer), ("piece_count", encode d.pieceCount)]

instance : Showable Piece.Details where
  encode d := .object [("piece", encode d.piece), ("programme_count", encode d.programmeCount)]

instance : Showable Venue.Details where
  encode d := .object [("venue", encode d.venue), ("event_count", encode d.eventCount)]

instance : Showable Programme.Details where
  encode d := .object [("programme", encode d.programme), ("piece_count", encode d.pieceCount),
    ("event_count", encode d.eventCount)]

instance : Showable Programme.Entry where
  encode e := .object [("piece", encode e.piece), ("composer", encode e.composer),
    ("sequence", .int e.sequence)]

instance : Showable Programme.WithPieces where
  encode p := .object [("programme", encode p.programme), ("pieces", encode p.pieces)]

instance : Showable Event.WithProgramme where
  encode e := .object [("event", encode e.event),
    ("programme", Value.ofOption encode e.programme)]

instance : Showable Event.WithTimes where
  encode e := .object [("event", encode e.event), ("created_at", encode e.createdAt),
    ("updated_at", encode e.updatedAt)]

end Recital
