import Recital.Instant.Basic

/-!
# The entities of a concert life

Composers write pieces; a programme is a list of pieces in order; an event performs a programme at a
venue; an artist has a full and a short biography.

* `Kind` : the five kinds of entities that have ids.
* `Composer`, `Piece`, `Programme`, `Venue`, `Event`, `Biography` : the entities.
* `EventDetails` : the fields of an event that its editor may change.
* `Keyed` : entities with an id.
* `Status`, `Timeframe`, `Biography.Variant` and their names.
* `sequenced` : pieces numbered from one in their order; `map_snd_sequenced` : all of them, each time
  that they are listed.
-/

set_option autoImplicit false

namespace Recital

/-- The kinds of entities that have ids. -/
inductive Kind where
  | composer | piece | programme | venue | event
  deriving DecidableEq, Repr, Inhabited

/-- Someone who writes pieces. -/
structure Composer where
  id : Int := 0
  fullName : String := ""
  shortName : String := ""
  deriving DecidableEq, Repr, Inhabited

/-- A piece of music by one composer. -/
structure Piece where
  id : Int := 0
  title : String := ""
  composerId : Int := 0
  deriving DecidableEq, Repr, Inhabited

/-- What is performed in an evening; its pieces are kept apart. -/
structure Programme where
  id : Int := 0
  title : String := ""
  deriving DecidableEq, Repr, Inhabited

/-- A place where events are held. -/
structure Venue where
  id : Int := 0
  name : String := ""
  fullAddress : String := ""
  shortAddress : String := ""
  deriving DecidableEq, Repr, Inhabited

/-- Where an event is in its life. -/
inductive Status where
  | draft | published | archived
  deriving DecidableEq, Repr, Inhabited

/-- Events before a moment, or from it on. -/
inductive Timeframe where
  | past | upcoming
  deriving DecidableEq, Repr, Inhabited

/-- The fields of an event that its editor may change. -/
structure EventDetails where
  title : String := ""
  date : Option Instant := none
  ticketLink : Option String := none
  venueId : Option Int := none
  programmeId : Option Int := none
  deriving DecidableEq, Repr, Inhabited

/-- A performance: a programme at a venue at some time. -/
structure Event where
  id : Int := 0
  title : String := ""
  date : Option Instant := none
  ticketLink : Option String := none
  venueId : Option Int := none
  programmeId : Option Int := none
  status : Status := .draft
  notes : Option String := none
  deriving DecidableEq, Repr, Inhabited

/-- The two lengths of a biography. -/
inductive Biography.Variant where
  | full | short
  deriving DecidableEq, Repr, Inhabited

/-- The text about the artist, in one of two lengths. -/
structure Biography where
  content : String
  variant : Biography.Variant
  deriving DecidableEq, Repr, Inhabited

/-- Entities with an id, which the database assigns. -/
class Keyed (α : Type) where
  id : α → Int
  withId : Int → α → α
  id_withId : ∀ i a, id (withId i a) = i := by intros; rfl

instance : Keyed Composer where
  id := Composer.id
  withId i c := { c with id := i }

instance : Keyed Piece where
  id := Piece.id
  withId i p := { p with id := i }

instance : Keyed Programme where
  id := Programme.id
  withId i p := { p with id := i }

instance : Keyed Venue where
  id := Venue.id
  withId i v := { v with id := i }

namespace Status

/-- The name of a status. -/
def name : Status → String
  | draft => "draft"
  | published => "published"
  | archived => "archived"

/-- The status of a name. -/
def ofName? : String → Option Status
  | "draft" => some draft
  | "published" => some published
  | "archived" => some archived
  | _ => none

theorem ofName?_name (s : Status) : ofName? s.name = some s := by
  cases s <;> decide

end Status

namespace Timeframe

/-- The name of a timeframe. -/
def name : Timeframe → String
  | past => "past"
  | upcoming => "upcoming"

/-- The timeframe of a name. -/
def ofName? : String → Option Timeframe
  | "past" => some past
  | "upcoming" => some upcoming
  | _ => none

theorem ofName?_name (t : Timeframe) : ofName? t.name = some t := by
  cases t <;> decide

end Timeframe

namespace Biography.Variant

/-- The name of a variant. -/
def name : Variant → String
  | full => "full"
  | short => "short"

/-- The variant of a name. -/
def ofName? : String → Option Variant
  | "full" => some full
  | "short" => some short
  | _ => none

theorem ofName?_name (v : Variant) : ofName? v.name = some v := by
  cases v <;> decide

end Biography.Variant

/-- Pieces numbered from `first` on in their order. -/
def sequencedFrom (first : Int) : List Int → List (Int × Int)
  | [] => []
  | pieceId :: rest => (first, pieceId) :: sequencedFrom (first + 1) rest

/-- Pieces numbered from one in their order.  A piece listed twice has two numbers. -/
def sequenced (pieceIds : List Int) : List (Int × Int) :=
  sequencedFrom 1 pieceIds

theorem map_snd_sequencedFrom (first : Int) (pieceIds : List Int) :
    (sequencedFrom first pieceIds).map Prod.snd = pieceIds := by
  induction pieceIds generalizing first with
  | nil => rfl
  | cons id ids ih => simp [sequencedFrom, ih]

theorem map_snd_sequenced (pieceIds : List Int) : (sequenced pieceIds).map Prod.snd = pieceIds :=
  map_snd_sequencedFrom 1 pieceIds

end Recital
