import Mathlib.Data.Set.Defs
import Recital.Proofs.Http.Site
import Recital.Proofs.Http.Soundness

/-!
# What an order leaves alone

* `RowKey` : what a stored row is known by.
* `Catalogue.ChangesOnly` : outside of some keys, every row stays as it is.
* `Intent.written?` : the row that an intent makes or changes, if it does either.
* `Order.writes` : the keys that an order may write: that of the entity that it is about, and those that the
  intent within it or the schema adds.
* `Order.Frame` : an order changes no other row; what it makes is new, what it deletes is gone, and so is
  every reference to that.
* `Effect.frame` : the effect of every order has this frame.
-/

set_option autoImplicit false

namespace Recital

/-! ## Rows and their keys -/

/-- What a stored row is known by. -/
inductive RowKey where
  | entity (kind : Kind) (id : Int)
  | slot (programmeId sequence : Int)
  | biography (variant : Biography.Variant)
  deriving DecidableEq, Repr, Inhabited

/-- The key of an entity that there may be. -/
def RowKey.entity? (kind : Kind) (id : Option Int) : Set RowKey :=
  {key | ∃ i, id = some i ∧ key = .entity kind i}

theorem RowKey.ne_of_not_mem {keys : Set RowKey} {kind : Kind} {id k : Int}
    (hk : RowKey.entity kind k ∉ keys) (hid : RowKey.entity kind id ∈ keys) : k ≠ id := by
  rintro rfl
  exact hk hid

namespace Catalogue

/-- The slot at a place of a programme. -/
def slot? (db : Catalogue) (programmeId sequence : Int) : Option Slot :=
  (db.slotsOf programmeId).find? fun slot => slot.sequence = sequence

/-- The key of the next new entity of a kind. -/
def next (db : Catalogue) (kind : Kind) : RowKey :=
  .entity kind (db.lastId kind + 1)

/-- Outside of the keys, both catalogues have the same rows.  Ids and the places of a programme stand apart
in every catalogue with integrity, so that each row is the one of its key. -/
structure ChangesOnly (db db' : Catalogue) (keys : Set RowKey) : Prop where
  composers : ∀ id, .entity .composer id ∉ keys →
    db'.composers.find? id = db.composers.find? id := by intros; rfl
  pieces : ∀ id, .entity .piece id ∉ keys → db'.pieces.find? id = db.pieces.find? id := by intros; rfl
  programmes : ∀ id, .entity .programme id ∉ keys →
    db'.programmes.find? id = db.programmes.find? id := by intros; rfl
  venues : ∀ id, .entity .venue id ∉ keys → db'.venues.find? id = db.venues.find? id := by intros; rfl
  events : ∀ id, .entity .event id ∉ keys → db'.events.find? id = db.events.find? id := by intros; rfl
  slots : ∀ p n, .slot p n ∉ keys → db'.slot? p n = db.slot? p n := by intros; rfl
  biographies : ∀ variant, .biography variant ∉ keys →
    db'.biographies.get? variant = db.biographies.get? variant := by intros; rfl

theorem slot?_of_slotsOf {db db' : Catalogue} {p n : Int} (h : db'.slotsOf p = db.slotsOf p) :
    db'.slot? p n = db.slot? p n := by
  rw [slot?, h, slot?]

end Catalogue

/-! ## What orders write -/

/-- The id of the row that an intent makes or changes. -/
def Intent.written? {α : Type} [Resolvable α] (db : Catalogue) (intent : Intent α) : Option Int :=
  match intent.operation with
  | .create => some ((Stored.table (α := α) db).lastId + 1)
  | .update => some (Keyed.id intent.data)
  | _ => none

theorem Resolved.find?_of_ne {α : Type} [Resolvable α] {db : Catalogue} {intent : Intent α} {value : α}
    {t : Table α} (h : Resolved db intent value t) {k : Int} (hk : intent.written? db ≠ some k) :
    t.find? k = (Stored.table db).find? k := by
  unfold Intent.written? at hk
  cases h with
  | selected hop hrow => rfl
  | created hop hvalid hrefers hnew =>
    rw [hop] at hk
    exact Table.find?_insert?_of_ne hnew fun hkey => hk (congrArg some hkey.symm)
  | updated hop hvalid hrefers hhas =>
    rw [hop] at hk
    exact Table.find?_put_of_ne fun hkey => hk (congrArg some hkey.symm)

theorem Desk.VenueResolved.find?_of_ne {db : Catalogue} {command : EventCommand} {details : EventDetails}
    {t : Table Venue} (h : VenueResolved db command details t) {k : Int}
    (hk : command.venue.bind (Intent.written? db) ≠ some k) : t.find? k = db.venues.find? k := by
  cases h with
  | given hnone => rfl
  | resolved hsome hvenue =>
    rw [hsome] at hk
    exact hvenue.find?_of_ne hk

namespace Http

open Desk

/-- The keys of the rows that an order may make, change or remove. -/
def Order.writes (db : Catalogue) : Order → Set RowKey
  | .composer (.create _) => {db.next .composer}
  | .composer (.update id _) => {.entity .composer id}
  | .composer (.delete id) => {.entity .composer id}
  | .piece (.create command) =>
    insert (db.next .piece) (RowKey.entity? .composer (command.composer.written? db))
  | .piece (.update id command) =>
    insert (.entity .piece id) (RowKey.entity? .composer (command.composer.written? db))
  | .piece (.delete id) => {.entity .piece id}
  | .venue (.create _) => {db.next .venue}
  | .venue (.update id _) => {.entity .venue id}
  | .venue (.delete id) =>
    {key | key = .entity .venue id ∨
      ∃ row ∈ db.events.rows, row.venueId = some id ∧ key = .entity .event row.id}
  | .programme (.create _) => {db.next .programme}
  | .programme (.update id _) => {.entity .programme id}
  | .programme (.replacePieces id _) => {key | ∃ n, key = .slot id n}
  | .programme (.delete id) =>
    {key | key = .entity .programme id ∨ (∃ n, key = .slot id n) ∨
      ∃ row ∈ db.events.rows, row.programmeId = some id ∧ key = .entity .event row.id}
  | .event (.create command) =>
    insert (db.next .event) (RowKey.entity? .venue (command.venue.bind (Intent.written? db)))
  | .event (.update id command) =>
    insert (.entity .event id) (RowKey.entity? .venue (command.venue.bind (Intent.written? db)))
  | .event (.updateNotes id _) => {.entity .event id}
  | .event (.draft id) => {.entity .event id}
  | .event (.publish id) => {.entity .event id}
  | .event (.archive id) => {.entity .event id}
  | .event (.delete id) => {.entity .event id}
  | .updateBiography name _ =>
    {key | ∃ variant, Biography.Variant.parse name = .ok variant ∧ key = .biography variant}
  | _ => ∅

/-- What is the same before and after an order, and what becomes of the rows that come and go. -/
structure Order.Frame (order : Order) (db db' : Catalogue) : Prop where
  only : db.ChangesOnly db' (order.writes db)
  made : ∀ kind, order.makes? = some kind →
    db.has kind (db.lastId kind + 1) = false ∧ db'.has kind (db.lastId kind + 1) = true
  removed : ∀ kind id, order = Request.deleteOrder kind id →
    db.has kind id = true ∧ db'.has kind id = false
  /-- An event at a deleted venue loses its reference to it and nothing else. -/
  unhosted : ∀ id, order = .venue (.delete id) → ∀ row ∈ db.events.rows, row.venueId = some id →
    row.status ≠ .published ∧ db'.events.find? row.id = some { row with venueId := none }
  /-- So does one that performs a deleted programme, and all slots of the programme go with it. -/
  unperformed : ∀ id, order = .programme (.delete id) → db'.slotsOf id = [] ∧
    ∀ row ∈ db.events.rows, row.programmeId = some id →
      row.status ≠ .published ∧ db'.events.find? row.id = some { row with programmeId := none }

namespace Order.Effect

open Catalogue

variable {now : Instant} {db db' : Catalogue} {order : Order} {r : Response} {id : Int}

/-- **An order changes no row but those that it may write.** -/
theorem changesOnly (h : order.Effect now db r db') : db.ChangesOnly db' (order.writes db) := by
  -- an event of another id is found as before, whatever replaces the row of an event
  have hput : ∀ {keys : Set RowKey} {k : Int} {old new : EventRow}, db.events.find? k = some old →
      new.id = old.id → RowKey.entity .event k ∈ keys → ∀ id, RowKey.entity .event id ∉ keys →
      (db.events.put new).find? id = db.events.find? id := by
    intro keys k old new hold hnew hmem id hid
    refine Table.find?_put_of_ne ?_
    have hk : new.id = k := hnew.trans (Table.id_of_find? hold)
    exact fun heq => RowKey.ne_of_not_mem hid hmem (heq.trans hk)
  cases h with
  | reading hreading hsuccess => exact {}
  | createComposer hvalid hnew =>
    exact { composers := fun k hk => Table.find?_insert?_of_ne hnew (RowKey.ne_of_not_mem hk rfl) }
  | updateComposer hvalid hhas =>
    exact { composers := fun k hk => Table.find?_put_of_ne (RowKey.ne_of_not_mem hk rfl) }
  | deleteComposer hhas hfree =>
    exact { composers := fun k hk => Table.find?_erase_of_ne (RowKey.ne_of_not_mem hk rfl) }
  | createPiece hop hcomposer hvalid hnew =>
    exact {
      composers := fun k hk => hcomposer.find?_of_ne fun hkey => hk (Or.inr ⟨k, hkey, rfl⟩)
      pieces := fun k hk =>
        Table.find?_insert?_of_ne hnew (RowKey.ne_of_not_mem hk (Or.inl rfl)) }
  | updatePiece hop hcomposer hvalid hhas =>
    exact {
      composers := fun k hk => hcomposer.find?_of_ne fun hkey => hk (Or.inr ⟨k, hkey, rfl⟩)
      pieces := fun k hk => Table.find?_put_of_ne (RowKey.ne_of_not_mem hk (Or.inl rfl)) }
  | deletePiece hhas hfree =>
    exact { pieces := fun k hk => Table.find?_erase_of_ne (RowKey.ne_of_not_mem hk rfl) }
  | createVenue hop hvalid hnew =>
    exact { venues := fun k hk => Table.find?_insert?_of_ne hnew (RowKey.ne_of_not_mem hk rfl) }
  | updateVenue hop hvalid hhas =>
    exact { venues := fun k hk => Table.find?_put_of_ne (RowKey.ne_of_not_mem hk rfl) }
  | deleteVenue hhas hfree =>
    refine {
      venues := fun k hk => Table.find?_erase_of_ne (RowKey.ne_of_not_mem hk (Or.inl rfl))
      events := fun k hk => Statement.find?_withoutReference_of_ne ?_ }
    rintro row hrow hvenue rfl
    exact hk (Or.inr ⟨row, hrow, hvenue, rfl⟩)
  | createProgramme hvalid hnew =>
    exact { programmes := fun k hk => Table.find?_insert?_of_ne hnew (RowKey.ne_of_not_mem hk rfl) }
  | updateProgramme hvalid hhas hfree =>
    exact { programmes := fun k hk => Table.find?_put_of_ne (RowKey.ne_of_not_mem hk rfl) }
  | replacePieces hhas hfree hpieces hshown =>
    refine { slots := fun p n hslot => slot?_of_slotsOf (slotsOf_replacedSlots_of_ne ?_) }
    rintro rfl
    exact hslot ⟨n, rfl⟩
  | deleteProgramme hhas hfree =>
    refine {
      programmes := fun k hk => Table.find?_erase_of_ne (RowKey.ne_of_not_mem hk (Or.inl rfl))
      events := fun k hk => Statement.find?_withoutReference_of_ne ?_
      slots := fun p n hslot => slot?_of_slotsOf (slotsOf_filter_of_ne ?_) }
    · rintro row hrow hprogramme rfl
      exact hk (Or.inr (Or.inr ⟨row, hrow, hprogramme, rfl⟩))
    · rintro rfl
      exact hslot (Or.inr (Or.inl ⟨n, rfl⟩))
  | createEvent hvenue htitle hrefers hnew hmade =>
    exact {
      venues := fun k hk => hvenue.find?_of_ne fun hkey => hk (Or.inr ⟨k, hkey, rfl⟩)
      events := fun k hk =>
        Table.find?_insert?_of_ne hnew (RowKey.ne_of_not_mem hk (Or.inl rfl)) }
  | updateEvent hold hdraft hvenue htitle hrefers hmade hshown =>
    exact {
      venues := fun k hk => hvenue.find?_of_ne fun hkey => hk (Or.inr ⟨k, hkey, rfl⟩)
      events := hput hold rfl (Or.inl rfl) }
  | updateNotes hold hmade => exact { events := hput hold rfl rfl }
  | draft hold hmade => exact { events := hput hold rfl rfl }
  | archive hold hmade => exact { events := hput hold rfl rfl }
  | publish hold htitle hcomplete hpieced hmade => exact { events := hput hold rfl rfl }
  | deleteEvent hold hdeletable =>
    exact { events := fun k hk => Table.find?_erase_of_ne (RowKey.ne_of_not_mem hk rfl) }
  | @updateBiography _ _ variant hvariant =>
    refine { biographies := fun v hv => ?_ }
    rw [Biographies.get?_set, if_neg]
    rintro rfl
    exact hv ⟨v, hvariant, rfl⟩

/-- What an order makes is new, and is there afterwards. -/
theorem made (h : order.Effect now db r db') (hi : db.Integrity) {kind : Kind}
    (hkind : order.makes? = some kind) :
    db.has kind (db.lastId kind + 1) = false ∧ db'.has kind (db.lastId kind + 1) = true := by
  cases h with
  | reading hreading hsuccess => cases (makes?_of_isReading hreading).symm.trans hkind
  | createComposer hvalid hnew =>
    cases hkind
    exact hi.composers.has_next hnew
  | createPiece hop hcomposer hvalid hnew =>
    cases hkind
    exact hi.pieces.has_next hnew
  | createVenue hop hvalid hnew =>
    cases hkind
    exact hi.venues.has_next hnew
  | createProgramme hvalid hnew =>
    cases hkind
    exact hi.programmes.has_next hnew
  | createEvent hvenue htitle hrefers hnew hmade =>
    cases hkind
    exact hi.events.has_next hnew
  | _ => cases hkind

/-- What an order deletes was there, and is not there any more. -/
theorem removed {kind : Kind} (h : (Request.deleteOrder kind id).Effect now db r db') :
    db.has kind id = true ∧ db'.has kind id = false := by
  cases kind with
  | composer =>
    cases h with
    | reading hreading hsuccess => cases hreading
    | deleteComposer hhas hfree => exact ⟨hhas, Table.has_erase_self⟩
  | piece =>
    cases h with
    | reading hreading hsuccess => cases hreading
    | deletePiece hhas hfree => exact ⟨hhas, Table.has_erase_self⟩
  | programme =>
    cases h with
    | reading hreading hsuccess => cases hreading
    | deleteProgramme hhas hfree => exact ⟨hhas, Table.has_erase_self⟩
  | venue =>
    cases h with
    | reading hreading hsuccess => cases hreading
    | deleteVenue hhas hfree => exact ⟨hhas, Table.has_erase_self⟩
  | event =>
    cases h with
    | reading hreading hsuccess => cases hreading
    | deleteEvent hrow hdeletable =>
      exact ⟨Table.has_of_find? hrow, Table.has_erase_self⟩

/-- Only events that are not published lose a venue. -/
theorem unhosted (h : (Order.venue (.delete id)).Effect now db r db') (hi : db.Integrity)
    {row : EventRow} (hrow : row ∈ db.events.rows) (hvenue : row.venueId = some id) :
    row.status ≠ .published ∧ db'.events.find? row.id = some { row with venueId := none } := by
  cases h with
  | reading hreading hsuccess => cases hreading
  | deleteVenue hhas hfree =>
    have hfind : db.events.find? row.id = some row := hi.events.find?_of_mem hrow
    exact ⟨fun hs => hfree ⟨row, hrow, hs, hvenue⟩,
      Statement.find?_withoutReference_of_eq (r := .venue) hfind hvenue⟩

/-- Only events that are not published lose a programme, which loses all its slots. -/
theorem unperformed (h : (Order.programme (.delete id)).Effect now db r db') (hi : db.Integrity) :
    db'.slotsOf id = [] ∧ ∀ row ∈ db.events.rows, row.programmeId = some id →
      row.status ≠ .published ∧ db'.events.find? row.id = some { row with programmeId := none } := by
  cases h with
  | reading hreading hsuccess => cases hreading
  | deleteProgramme hhas hfree =>
    constructor
    · simp [slotsOf]
    · intro row hrow hprogramme
      have hfind : db.events.find? row.id = some row := hi.events.find?_of_mem hrow
      exact ⟨fun hs => hfree ⟨row, hrow, hs, hprogramme⟩,
        Statement.find?_withoutReference_of_eq (r := .programme) hfind hprogramme⟩

/-- **The effect of every order has its frame.** -/
theorem frame (h : order.Effect now db r db') (hi : db.Integrity) : order.Frame db db' where
  only := h.changesOnly
  made kind hkind := h.made hi hkind
  removed kind id horder := by
    subst horder
    exact h.removed
  unhosted id horder row hrow hvenue := by
    subst horder
    exact h.unhosted hi hrow hvenue
  unperformed id horder := by
    subst horder
    exact h.unperformed hi

end Order.Effect

end Http

end Recital
