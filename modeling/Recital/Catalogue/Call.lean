import Recital.Catalogue.Json
import Recital.Intent.Resolution

/-!
# Calls

A call is one operation on the catalogue, below the use cases and their rules.

* `RowCall` : the operations on a kind of rows.
* `EventCall` : those on events.
* `Call` : all calls; `Call.step` : what a call does, and the value that it shows.
* `Intervention` : what a hand on the database may do; it respects the schema alone.
-/

set_option autoImplicit false

namespace Recital

open Json Showable Statement

/-- The operations on a kind of rows. -/
inductive RowCall (α : Type) where
  | get (id : Int)
  | details (id : Int)
  | list
  | create (row : α)
  | update (row : α)
  | delete (id : Int)
  deriving DecidableEq, Repr, Inhabited

/-- The step that shows its value. -/
def Step.shown {α : Type} [Showable α] (step : Step α) : Step Value := do
  let a ← step
  pure (encode a)

/-- What an operation on rows does, where `delete` removes one. -/
def RowCall.step {α δ : Type} [Detailed α δ] [Showable α] [Showable δ] (delete : Int → Step Unit) :
    RowCall α → Step Value
  | .get id => (fetch id : Step α).shown
  | .details id => (Listing.detailsOf α id).shown
  | .list => (Listing.allDetails α).shown
  | .create row => (insert row).shown
  | .update row => (Statement.update row).shown
  | .delete id => (delete id).shown

/-- The operations on events. -/
inductive EventCall where
  | get (id : Int)
  | create (e : Event)
  | update (e : Event)
  | updateNotes (id : Int) (notes : Option String)
  | setStatus (id : Int) (status : Status)
  | delete (id : Int)
  | list (status : Option Status) (timeframe : Option Timeframe) (moment : Instant)
  | listWithTimes (status : Option Status) (timeframe : Option Timeframe) (moment : Instant)
  deriving DecidableEq, Repr

/-- What an operation on events does at the moment `now`. -/
def EventCall.step (now : Instant) : EventCall → Step Value
  | get id => (fetchEvent id).shown
  | create e => (insertEvent now e).shown
  | update e => (updateEvent now e).shown
  | updateNotes id notes => (Statement.updateNotes now id notes).shown
  | setStatus id status => (Statement.setStatus now id status).shown
  | delete id => (deleteEvent id).shown
  | list status timeframe moment => (Listing.listEvents now status timeframe moment).shown
  | listWithTimes status timeframe moment =>
    (Listing.listEventsWithTimes now status timeframe moment).shown

/-- One operation on the catalogue. -/
inductive Call where
  | composer (call : RowCall Composer)
  | piece (call : RowCall Piece)
  | venue (call : RowCall Venue)
  | programme (call : RowCall Programme)
  | programmePieces (id : Int)
  | replacePieces (id : Int) (pieceIds : List Int)
  | event (call : EventCall)
  | biography (variant : Biography.Variant)
  | putBiography (b : Biography)
  | resolveComposer (intent : Intent Composer)
  | resolvePiece (intent : Intent Piece)
  | resolveVenue (intent : Intent Venue)
  | count (dependency : Dependency) (id : Int)
  | requireFree (dependency : Dependency) (id : Int) (blocked : Fault)
  | lock (kind : Kind) (id : Int)
  | has (kind : Kind) (id : Int)
  deriving DecidableEq, Repr

/-- What a call does at the moment `now`. -/
def Call.step (now : Instant) : Call → Step Value
  | composer call => call.step deleteComposer
  | piece call => call.step deletePiece
  | venue call => call.step deleteVenue
  | programme call => call.step deleteProgramme
  | programmePieces id => (Listing.piecesOf id).shown
  | replacePieces id pieceIds => (replaceSlots id pieceIds).shown
  | event call => call.step now
  | biography variant => (Statement.biography variant).shown
  | putBiography b => (Statement.putBiography b).shown
  | resolveComposer intent => (resolve intent).shown
  | resolvePiece intent => (resolve intent).shown
  | resolveVenue intent => (resolve intent).shown
  | count dependency id => (Statement.count dependency id).shown
  | requireFree dependency id blocked => (Statement.requireFree dependency id blocked).shown
  | lock kind id => (Statement.lock kind id).shown
  | has kind id => (exists? kind id).shown

/-- What a hand on the database may do. -/
inductive Intervention where
  /-- Every row of a kind written again as it is, expecting one. -/
  | touchAll (kind : Kind)
  /-- A column of an event overwritten. -/
  | poke (column : Column) (id : Int) (value : Option String)
  | deleteBiography (variant : Biography.Variant)
  deriving DecidableEq, Repr

/-- What an intervention does. -/
def Intervention.step : Intervention → Step Value
  | touchAll kind => (Statement.touchAll kind).shown
  | poke column id value => (Statement.poke column id value).shown
  | deleteBiography variant => (Statement.deleteBiography variant).shown

end Recital
