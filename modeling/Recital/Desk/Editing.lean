import Recital.Catalogue.Listing
import Recital.Catalogue.Plan
import Recital.Intent.Resolution

/-!
# Editing composers, pieces, venues, programmes and biographies

What can be done with the entities that events are made of.  Whatever decides and then writes does so in
one unit of work.

* `createComposer`, `updateComposer`, `deleteComposer`, and so on for the other kinds.
* `PieceCommand` : a piece together with its composer, both as intents.
* `replacePieces` : the pieces of a programme, which is frozen while a published event performs it.
* `showBiography`, `updateBiography`.
-/

set_option autoImplicit false

namespace Recital.Desk

open Step Statement

/-- A piece and the composer that it is to have. -/
structure PieceCommand where
  piece : Intent Piece
  composer : Intent Composer
  deriving DecidableEq, Repr, Inhabited

/-- A new composer. -/
def createComposer (c : Composer) : Plan Composer :=
  .after (valid c.validate) (insert c)

/-- The names of a composer changed. -/
def updateComposer (id : Int) (c : Composer) : Plan Composer :=
  let c := { c with id := id }
  .after (valid c.validate) (update c)

/-- A composer removed; it must have no pieces. -/
def deleteComposer (id : Int) : Plan Unit :=
  .step <| atomically do
    lock .composer id
    requireFree .composerPieces id (.deletionForbidden .composer)
    Statement.deleteComposer id

/-- A new piece, after its composer has been resolved. -/
def createPiece (command : PieceCommand) : Plan Piece :=
  .after (command.piece.ensure .create) <| atomically do
    let composer ← resolve command.composer
    resolve { command.piece with
      data := { command.piece.data with composerId := composer.id } }

/-- A piece changed, after its composer has been resolved. -/
def updatePiece (id : Int) (command : PieceCommand) : Plan Piece :=
  .after (command.piece.ensure .update) <| atomically do
    lock .piece id
    let composer ← resolve command.composer
    resolve { command.piece with
      data := { command.piece.data with id := id, composerId := composer.id } }

/-- A piece removed; it must be in no programme. -/
def deletePiece (id : Int) : Plan Unit :=
  .step <| atomically do
    lock .piece id
    requireFree .pieceProgrammes id (.deletionForbidden .piece)
    Statement.deletePiece id

/-- A new venue. -/
def createVenue (venue : Intent Venue) : Plan Venue :=
  .after (venue.ensure .create) (resolve venue)

/-- A venue changed. -/
def updateVenue (id : Int) (venue : Intent Venue) : Plan Venue :=
  .after (venue.ensure .update) (resolve { venue with data := { venue.data with id := id } })

/-- A venue removed; no published event may be at it. -/
def deleteVenue (id : Int) : Plan Unit :=
  .step <| atomically do
    lock .venue id
    requireFree .venuePublishedEvents id (.deletionForbidden .venue)
    Statement.deleteVenue id

/-- A new programme, without pieces. -/
def createProgramme (p : Programme) : Plan Programme :=
  .after (valid p.validate) (insert p)

/-- The title of a programme changed; no published event may perform it. -/
def updateProgramme (id : Int) (p : Programme) : Plan Programme :=
  let p := { p with id := id }
  .after (valid p.validate) <| atomically do
    lock .programme id
    requireFree .programmePublishedEvents id .programmeImmutable
    update p

/-- That every id of a list names a piece. -/
def requirePieces : List Int → Step Unit
  | [] => pure ()
  | id :: ids => do
    require .piece id
    requirePieces ids

/-- The ids of a list in ascending order, each once. -/
def distinct (ids : List Int) : List Int :=
  ids.eraseDups.mergeSort

@[simp] theorem mem_distinct {id : Int} {ids : List Int} : id ∈ distinct ids ↔ id ∈ ids := by
  rw [distinct, List.mem_mergeSort, List.mem_eraseDups]

/-- The pieces of a programme replaced; no published event may perform it.  A piece that is listed twice is
looked up once. -/
def replacePieces (id : Int) (pieceIds : List Int) : Plan Programme.WithPieces :=
  .step <| atomically do
    lock .programme id
    requireFree .programmePublishedEvents id .programmeImmutable
    requirePieces (distinct pieceIds)
    replaceSlots id pieceIds
    Listing.programmeWithPieces id

/-- A programme removed; no published event may perform it. -/
def deleteProgramme (id : Int) : Plan Unit :=
  .step <| atomically do
    lock .programme id
    requireFree .programmePublishedEvents id (.deletionForbidden .programme)
    Statement.deleteProgramme id

/-- The biography of a named variant. -/
def showBiography (name : String) : Plan Biography :=
  (Biography.Variant.parse name).map biography

/-- The biography of a named variant replaced. -/
def updateBiography (name content : String) : Plan Biography :=
  (Biography.Variant.parse name).map fun variant => putBiography ⟨content, variant⟩

end Recital.Desk
