import Recital.Proofs.Catalogue.Clock
import Recital.Proofs.Desk.Resolution

/-!
# Statements do not tell the time

* `Step.Timeless` : on catalogues that are alike, two steps end alike, and leave catalogues that are alike.
  `Timeless.bind`, `Timeless.atomically`, … : one rule for each way in which steps are made.
* `TimelessStored`, `TimelessDetailed` : kinds of rows without times.
* `timeless_fetch`, … , `timeless_putBiography` : every statement, at any two moments.
* `timeless_listEvents`, … : all that is shown, save the times themselves.
* `timeless_resolve` : whatever an intent asks for.
-/

set_option autoImplicit false

namespace Recital

/-! ## Steps -/

namespace Step

variable {α α' β β' : Type} {R : α → α' → Prop} {S : β → β' → Prop} {step : Step α} {step' : Step α'}

/-- Both give values, which are related, or the same fault. -/
inductive Ends (R : α → α' → Prop) : Except Fault α → Except Fault α' → Prop where
  | value {a : α} {a' : α'} (h : R a a') : Ends R (.ok a) (.ok a')
  | fault (e : Fault) : Ends R (.error e) (.error e)

/-- On catalogues that are alike, the steps end alike, and leave catalogues that are alike. -/
def Timeless (R : α → α' → Prop) (step : Step α) (step' : Step α') : Prop :=
  ∀ db db' : Catalogue, db.Alike db' → Ends R (step.run db).1 (step'.run db').1 ∧
    (step.run db).2.Alike (step'.run db').2

theorem ends_of_eq {r r' : Except Fault α} (h : r = r') : Ends Eq r r' := by
  subst h
  cases r with
  | ok a => exact .value rfl
  | error e => exact .fault e

theorem timeless_pure {a : α} {a' : α'} (h : R a a') :
    Timeless R (pure a : Step α) (pure a' : Step α') :=
  fun _ _ halike => ⟨.value h, halike⟩

theorem timeless_fail (e : Fault) : Timeless R (fail e : Step α) (fail e : Step α') :=
  fun _ _ halike => ⟨.fault e, halike⟩

theorem timeless_check (r : Except Fault α) : Timeless Eq (check r) (check r) :=
  fun _ _ halike => ⟨ends_of_eq rfl, halike⟩

theorem timeless_query {f : Catalogue → Except Fault α} {f' : Catalogue → Except Fault α'}
    (h : ∀ {db db' : Catalogue}, db.Alike db' → Ends R (f db) (f' db')) :
    Timeless R (query f) (query f') :=
  fun _ _ halike => ⟨h halike, halike⟩

theorem timeless_statement {f : Catalogue → Except Fault (α × Catalogue)}
    {f' : Catalogue → Except Fault (α' × Catalogue)}
    (h : ∀ {db db' : Catalogue}, db.Alike db' →
      Ends (fun p p' => R p.1 p'.1 ∧ p.2.Alike p'.2) (f db) (f' db')) :
    Timeless R (statement f) (statement f') := by
  intro db db' halike
  have hends := h halike
  unfold run statement
  generalize f db = r at hends
  generalize f' db' = r' at hends
  cases hends with
  | value h => exact ⟨.value h.1, h.2⟩
  | fault e => exact ⟨.fault e, halike⟩

/-- The second steps go on from what the first ones leave. -/
theorem Timeless.bind {next : α → Step β} {next' : α' → Step β'} (h : Timeless R step step')
    (hnext : ∀ {a : α} {a' : α'}, R a a' → Timeless S (next a) (next' a')) :
    Timeless S (step >>= next) (step' >>= next') := by
  intro db db' halike
  obtain ⟨hends, hleft⟩ := h db db' halike
  rw [bind_run, bind_run]
  generalize step.run db = p at *
  generalize step'.run db' = p' at *
  obtain ⟨r, left⟩ := p
  obtain ⟨r', left'⟩ := p'
  cases hends with
  | value h => exact hnext h left left' hleft
  | fault e => exact ⟨.fault e, hleft⟩

/-- What goes on from a value goes on from the same value. -/
theorem Timeless.andThen {step step' : Step α} {next : α → Step β} {next' : α → Step β'}
    (h : Timeless Eq step step') (hnext : ∀ a, Timeless S (next a) (next' a)) :
    Timeless S (step >>= next) (step' >>= next') :=
  h.bind fun {a _} ha => ha ▸ hnext a

theorem Timeless.atomically (h : Timeless R step step') :
    Timeless R (atomically step) (atomically step') := by
  intro db db' halike
  obtain ⟨hends, hleft⟩ := h db db' halike
  unfold run at *
  unfold Step.atomically
  generalize step db = p at *
  generalize step' db' = p' at *
  obtain ⟨r, left⟩ := p
  obtain ⟨r', left'⟩ := p'
  cases hends with
  | value h => exact ⟨.value h, hleft⟩
  | fault e => exact ⟨.fault e, halike⟩

/-- A step that does not tell the time leaves a readable catalogue readable. -/
theorem Timeless.readable (h : Timeless R step step') {db : Catalogue} (hread : db.Readable) :
    (step.run db).2.Readable :=
  (h db db (.refl hread)).2.readable

end Step

namespace Plan

open Step

variable {α β : Type}

theorem timeless_step {step step' : Step α} (h : Timeless Eq step step') :
    Timeless Eq (Plan.step step).run (Plan.step step').run :=
  h

theorem timeless_after {check : Except Fault Unit} {step step' : Step α}
    (h : check = .ok () → Timeless Eq step step') :
    Timeless Eq (Plan.after check step).run (Plan.after check step').run := by
  cases check with
  | ok u => exact h rfl
  | error e => exact timeless_fail e

theorem timeless_map {plan plan' : Plan α} {f : α → β} (h : Timeless Eq plan.run plan'.run) :
    Timeless Eq (plan.map f).run (plan'.map f).run := by
  have hruns : ∀ plan : Plan α, (plan.map f).run = (plan.run >>= fun a => pure (f a) : Step β) := by
    intro plan
    cases plan <;> rfl
  rw [hruns, hruns]
  exact Timeless.andThen h fun _ => timeless_pure rfl

end Plan

/-! ## Rows without times -/

/-- Kinds of rows without times. -/
class TimelessStored (α : Type) [Stored α] : Prop where
  table_eq : ∀ {db db' : Catalogue}, db.Alike db' →
    Stored.table (α := α) db = Stored.table (α := α) db'
  refers_eq : ∀ {db db' : Catalogue} {row : α}, db.Alike db' →
    Stored.refers db row = Stored.refers db' row
  alike_setTable : ∀ {db db' : Catalogue} {t : Table α}, db.Alike db' →
    (Stored.setTable t db).Alike (Stored.setTable t db')

/-- Kinds of rows whose counts do not tell times either. -/
class TimelessDetailed (α : Type) {δ : Type} [Detailed α δ] : Prop extends TimelessStored α where
  details_eq : ∀ {db db' : Catalogue} {row : α}, db.Alike db' →
    Detailed.details db row = Detailed.details db' row
  listed_eq : ∀ {db db' : Catalogue}, db.Alike db' →
    (Detailed.listed db : α → δ) = Detailed.listed db'

instance : TimelessDetailed Composer where
  table_eq h := h.composers
  refers_eq _ := rfl
  alike_setTable h := { h with composers := rfl }
  details_eq h := congrArg (Composer.Details.mk _) (h.count .composerPieces _)
  listed_eq h := funext fun _ => congrArg (Composer.Details.mk _) (h.count .composerPieces _)

instance : TimelessDetailed Piece where
  table_eq h := h.pieces
  refers_eq h := h.has .composer _
  alike_setTable h := { h with pieces := rfl }
  details_eq h := congrArg (Piece.Details.mk _) (h.count .pieceProgrammes _)
  listed_eq h := funext fun _ => congrArg (Piece.Details.mk _) (h.count .pieceProgrammes _)

instance : TimelessDetailed Venue where
  table_eq h := h.venues
  refers_eq _ := rfl
  alike_setTable h := { h with venues := rfl }
  details_eq h := congrArg (Venue.Details.mk _) (h.count .venuePublishedEvents _)
  listed_eq h := funext fun _ => congrArg (Venue.Details.mk _) (h.count .venuePublishedEvents _)

/-- What is shown of a programme. -/
theorem Catalogue.Alike.programmeDetails {db db' : Catalogue} (h : db.Alike db') (p : Programme) :
    Detailed.details db p = Detailed.details db' p := by
  have hevents := h.count .programmePublishedEvents p.id
  simp only [Dependency.count] at hevents
  simp only [Detailed.details, h.slots, hevents]

instance : TimelessDetailed Programme where
  table_eq h := h.programmes
  refers_eq _ := rfl
  alike_setTable h := { h with programmes := rfl }
  details_eq h := h.programmeDetails _
  listed_eq h := funext fun p => h.programmeDetails p

namespace Statement

open Step TimelessStored

section Rows

variable {α : Type} [Stored α] [TimelessStored α]

theorem timeless_fetch (id : Int) : Timeless Eq (fetch id : Step α) (fetch id) :=
  timeless_query fun h => by
    rw [table_eq h]
    exact ends_of_eq rfl

theorem timeless_insert (row : α) : Timeless Eq (insert row) (insert row) :=
  timeless_statement fun {db db'} h => by
    rw [refers_eq h, table_eq h]
    split
    · split
      · exact .value ⟨rfl, alike_setTable h⟩
      · exact .fault _
    · exact .fault _

theorem timeless_update (row : α) : Timeless Eq (update row) (update row) :=
  timeless_statement fun h => by
    rw [refers_eq h, table_eq h]
    split
    · split
      · exact .value ⟨rfl, alike_setTable h⟩
      · exact .fault _
    · exact .fault _

end Rows

section Queries

theorem timeless_lock (kind : Kind) (id : Int) : Timeless Eq (lock kind id) (lock kind id) :=
  timeless_query fun h => by
    rw [h.has]
    exact ends_of_eq rfl

theorem timeless_exists? (kind : Kind) (id : Int) :
    Timeless Eq (exists? kind id) (exists? kind id) :=
  timeless_query fun h => by
    rw [h.has]
    exact ends_of_eq rfl

theorem timeless_require (kind : Kind) (id : Int) : Timeless Eq (require kind id) (require kind id) :=
  (timeless_exists? kind id).andThen fun found => by
    cases found with
    | true => exact timeless_pure rfl
    | false => exact timeless_fail _

theorem timeless_count (dependency : Dependency) (id : Int) :
    Timeless Eq (count dependency id) (count dependency id) :=
  timeless_query fun h => by
    rw [h.count]
    exact ends_of_eq rfl

theorem timeless_requireFree (dependency : Dependency) (id : Int) (blocked : Fault) :
    Timeless Eq (requireFree dependency id blocked) (requireFree dependency id blocked) :=
  (timeless_count dependency id).andThen fun n => by
    split
    · exact timeless_fail _
    · exact timeless_pure rfl

end Queries

section Removals

theorem timeless_deleteComposer (id : Int) : Timeless Eq (deleteComposer id) (deleteComposer id) :=
  timeless_statement fun h => by
    rw [h.composers, h.pieces]
    split
    · exact .fault _
    split
    · exact .fault _
    · exact .value ⟨rfl, { h with composers := rfl, pieces := rfl }⟩

theorem timeless_deletePiece (id : Int) : Timeless Eq (deletePiece id) (deletePiece id) :=
  timeless_statement fun h => by
    rw [h.pieces, h.slots]
    split
    · exact .fault _
    split
    · exact .fault _
    · exact .value ⟨rfl, { h with pieces := rfl, slots := rfl }⟩

theorem timeless_deleteProgramme (id : Int) : Timeless Eq (deleteProgramme id) (deleteProgramme id) :=
  timeless_statement fun h => by
    have hevents := h.withoutReference .programme id
    rw [h.programmes, h.slots]
    split
    · exact .fault _
    · exact .value ⟨rfl, { hevents with programmes := rfl, slots := rfl }⟩

theorem timeless_deleteVenue (id : Int) : Timeless Eq (deleteVenue id) (deleteVenue id) :=
  timeless_statement fun h => by
    have hevents := h.withoutReference .venue id
    rw [h.venues]
    split
    · exact .fault _
    · exact .value ⟨rfl, { hevents with venues := rfl }⟩

theorem timeless_deleteEvent (id : Int) : Timeless Eq (deleteEvent id) (deleteEvent id) :=
  timeless_statement fun {db db'} h => by
    have hhas : db.events.has id = db'.events.has id := h.has .event id
    rw [hhas]
    split
    · exact .fault _
    · exact .value ⟨rfl, h.eraseEvent id⟩

end Removals

section Events

variable {now now' : Instant} {id : Int} {row row' : EventRow}

theorem table_events (db : Catalogue) : Stored.table (α := EventRow) db = db.events :=
  rfl

/-- What is read back of a row is not told by its times. -/
theorem timeless_event (h : row.untimed = row'.untimed) :
    Timeless Eq (check row.event) (check row'.event) := by
  rw [EventRow.event_eq_of_untimed h]
  exact timeless_check _

theorem timeless_fetchEvent (id : Int) : Timeless Eq (fetchEvent id) (fetchEvent id) := by
  refine Timeless.bind (R := fun row row' : EventRow => row.untimed = row'.untimed) ?_ timeless_event
  refine timeless_query fun {db db'} h => ?_
  simp only [table_events]
  rcases h.find? id with ⟨hnone, hnone'⟩ | ⟨row, row', hrow, hrow', huntimed, -, -⟩
  · rw [hnone, hnone']
    exact .fault _
  · rw [hrow, hrow']
    exact .value huntimed

/-- Rows that are written at two moments get the same id. -/
theorem timeless_insertRow (h : row.untimed = row'.untimed) (hread : row.Readable)
    (hread' : row'.Readable) :
    Timeless (fun row row' : EventRow => row.untimed = row'.untimed) (insert row) (insert row') := by
  refine timeless_statement fun {db db'} halike => ?_
  have hnew : ∀ lastId : Int, (Keyed.withId lastId row : EventRow).untimed =
      (Keyed.withId lastId row' : EventRow).untimed :=
    fun lastId => congrArg (fun r : EventRow => (Keyed.withId lastId r : EventRow)) h
  simp only [table_events, halike.refers_row h, Table.insert?, halike.lastId]
  split
  · split
    · rename_i hsome
      split at hsome
      · rename_i hlt
        cases hsome
        rw [if_pos hlt]
        exact .value ⟨hnew _, halike.appendEvent (hnew _) hread.withId hread'.withId _⟩
      · cases hsome
    · rename_i hnone
      split at hnone
      · cases hnone
      · rename_i hlt
        rw [if_neg hlt]
        exact .fault _
  · exact .fault _

theorem timeless_insertEvent (e : Event) : Timeless Eq (insertEvent now e) (insertEvent now' e) :=
  have hrow : (EventRow.ofEvent now e).untimed = (EventRow.ofEvent now' e).untimed := rfl
  (timeless_insertRow hrow EventRow.readable_ofEvent EventRow.readable_ofEvent).bind timeless_event

/-- A row is changed alike if its change is not told by the times. -/
theorem timeless_changeEvent {change change' : Catalogue → EventRow → Except Fault EventRow}
    (h : ∀ {db db' : Catalogue} {row row' : EventRow}, db.Alike db' → row.untimed = row'.untimed →
      row.Readable → row'.Readable →
      Ends (fun new new' => new.untimed = new'.untimed ∧ new.Readable ∧ new'.Readable)
        (change db row) (change' db' row')) :
    Timeless Eq (changeEvent id change) (changeEvent id change') := by
  refine Timeless.bind (R := fun row row' : EventRow => row.untimed = row'.untimed) ?_ timeless_event
  refine timeless_statement fun {db db'} halike => ?_
  rcases halike.find? id with ⟨hnone, hnone'⟩ | ⟨row, row', hrow, hrow', huntimed, hread, hread'⟩
  · rw [hnone, hnone']
    exact .fault _
  · rw [hrow, hrow']
    have hends := h halike huntimed hread hread'
    simp only
    generalize change db row = r at hends
    generalize change' db' row' = r' at hends
    cases hends with
    | value hnew => exact .value ⟨hnew.1, halike.putEvent hnew.1 hnew.2.1 hnew.2.2⟩
    | fault e => exact .fault e

theorem timeless_updateEvent (e : Event) : Timeless Eq (updateEvent now e) (updateEvent now' e) := by
  refine timeless_changeEvent fun {db db' row row'} halike huntimed hread hread' => ?_
  show Ends _ (if Stored.refers db (row.edited now e.details) then .ok (row.edited now e.details)
    else .error .database)
    (if Stored.refers db' (row'.edited now' e.details) then .ok (row'.edited now' e.details)
    else .error .database)
  have hnew : (row.edited now e.details).untimed = (row'.edited now' e.details).untimed := by
    have hsame := congrArg (fun r : EventRow => (r.edited now e.details).untimed) huntimed
    exact hsame
  rw [halike.refers_row hnew]
  split
  · exact .value ⟨hnew, hread.edited, hread'.edited⟩
  · exact .fault _

theorem timeless_updateNotes (id : Int) (notes : Option String) :
    Timeless Eq (updateNotes now id notes) (updateNotes now' id notes) := by
  refine timeless_changeEvent fun {db db' row row'} _ huntimed hread hread' => .value ⟨?_, ?_, ?_⟩
  · have hsame := congrArg (fun r : EventRow => (r.annotated now notes).untimed) huntimed
    exact hsame
  · exact hread.annotated
  · exact hread'.annotated

theorem timeless_setStatus (id : Int) (status : Status) :
    Timeless Eq (setStatus now id status) (setStatus now' id status) := by
  refine timeless_changeEvent fun {db db' row row'} _ huntimed hread hread' => .value ⟨?_, ?_, ?_⟩
  · have hsame := congrArg (fun r : EventRow => (r.moved now status).untimed) huntimed
    exact hsame
  · exact hread.moved
  · exact hread'.moved

end Events

section Slots

theorem timeless_insertSlot (slot : Slot) : Timeless Eq (insertSlot slot) (insertSlot slot) :=
  timeless_statement fun h => by
    rw [h.has, h.has, h.slots]
    split
    · exact .value ⟨rfl, { h with slots := rfl }⟩
    · exact .fault _

theorem timeless_insertSlots (programmeId : Int) (entries : List (Int × Int)) :
    Timeless Eq (insertSlots programmeId entries) (insertSlots programmeId entries) := by
  induction entries with
  | nil => exact timeless_pure rfl
  | cons entry entries ih => exact (timeless_insertSlot _).andThen fun _ => ih

theorem timeless_replaceSlots (programmeId : Int) (pieceIds : List Int) :
    Timeless Eq (replaceSlots programmeId pieceIds) (replaceSlots programmeId pieceIds) := by
  have hclear : Timeless Eq (clearSlots programmeId) (clearSlots programmeId) :=
    timeless_statement fun h => by
      rw [h.slots]
      exact .value ⟨rfl, { h with slots := rfl }⟩
  exact hclear.andThen fun _ => timeless_insertSlots programmeId _

end Slots

section Biographies

theorem timeless_biography (variant : Biography.Variant) :
    Timeless Eq (biography variant) (biography variant) :=
  timeless_query fun h => by
    rw [h.biographies]
    exact ends_of_eq rfl

theorem timeless_putBiography (b : Biography) : Timeless Eq (putBiography b) (putBiography b) :=
  timeless_statement fun h => by
    rw [h.biographies]
    exact .value ⟨rfl, { h with biographies := rfl }⟩

end Biographies

end Statement

/-! ## Intents -/

/-- What an entity needs is that its references name rows. -/
theorem needs_run {α : Type} [Resolvable α] [LawfulResolvable α] (row : α) (db : Catalogue) :
    (Resolvable.needs row).run db =
      (if Stored.refers db row then .ok () else .error .notFound, db) := by
  cases hrefers : Stored.refers db row with
  | true =>
    have hmeets : (Resolvable.needs row).Meets db (fun _ db' => db' = db) fun _ _ => False :=
      LawfulResolvable.meets_needs.2 ⟨fun _ => rfl, fun hno => Bool.noConfusion (hrefers.symm.trans hno)⟩
    obtain ⟨_, _, hrun, rfl⟩ := hmeets.run_ok
    exact hrun
  | false =>
    have hmeets : (Resolvable.needs row).Meets db (fun _ _ => False)
        fun e db' => e = .notFound ∧ db' = db :=
      LawfulResolvable.meets_needs.2 ⟨fun hno => Bool.noConfusion (hrefers.symm.trans hno),
        fun _ => ⟨rfl, rfl⟩⟩
    obtain ⟨_, _, hrun, rfl, rfl⟩ := hmeets.run_error
    exact hrun

section Resolving

open Step Statement

variable {α : Type} [Resolvable α] [LawfulResolvable α] [TimelessStored α]

theorem timeless_needs (row : α) : Timeless Eq (Resolvable.needs row) (Resolvable.needs row) := by
  intro db db' h
  rw [needs_run, needs_run, TimelessStored.refers_eq h]
  exact ⟨ends_of_eq rfl, h⟩

/-- An intent is resolved alike at any two moments. -/
theorem timeless_resolve (intent : Intent α) : Timeless Eq (resolve intent) (resolve intent) := by
  unfold resolve
  split
  · exact timeless_fetch _
  · exact (timeless_check _).andThen fun _ => (timeless_needs _).andThen fun _ => timeless_insert _
  · exact (timeless_check _).andThen fun _ => (timeless_needs _).andThen fun _ => timeless_update _
  · exact timeless_fail _

end Resolving

/-! ## Listings -/

namespace Listing

open Step Statement

variable {now now' moment : Instant} {status : Option Status} {timeframe : Option Timeframe}

theorem timeless_detailsOf {α δ : Type} [Detailed α δ] [TimelessDetailed α] (id : Int) :
    Timeless Eq (detailsOf α id) (detailsOf α id) :=
  timeless_query fun h => by
    rw [TimelessStored.table_eq h]
    split
    · exact .value (TimelessDetailed.details_eq h)
    · exact .fault _

theorem timeless_allDetails {α δ : Type} [Detailed α δ] [TimelessDetailed α] :
    Timeless Eq (allDetails α) (allDetails α) :=
  timeless_query fun h => by
    rw [TimelessStored.table_eq h, TimelessDetailed.listed_eq h]
    exact .value rfl

theorem timeless_piecesOf (id : Int) : Timeless Eq (piecesOf id) (piecesOf id) :=
  timeless_query fun {db db'} h => by
    have hjoined : joined db = joined db' := by
      funext slot
      simp only [joined, h.pieces, h.composers]
    rw [hjoined, orderedSlots, orderedSlots, Catalogue.slotsOf, Catalogue.slotsOf, h.slots]
    exact .value rfl

theorem timeless_programmeWithPieces (id : Int) :
    Timeless Eq (programmeWithPieces id) (programmeWithPieces id) :=
  (timeless_fetch id).andThen fun _ => (timeless_piecesOf id).andThen fun _ => timeless_pure rfl

theorem timeless_withProgramme (e : Event) : Timeless Eq (withProgramme e) (withProgramme e) := by
  unfold withProgramme
  split
  · exact timeless_pure rfl
  · exact (timeless_programmeWithPieces _).andThen fun _ => timeless_pure rfl

/-- The date of a readable row is read alike at any time. -/
theorem dateKey_untimed {row : EventRow} (h : row.Readable) :
    dateKey now row = dateKey now' row.untimed := by
  obtain ⟨d, hd⟩ := h.date
  have hd' : row.untimed.date = d.map Instant.stored := hd
  have hread : ∀ now, JulianDay.julianMillis? (JulianDay.ofInstant? now) ∘ Instant.stored =
      JulianDay.ofInstant? := by
    intro now
    funext i
    rw [Function.comp_apply, JulianDay.julianMillis?_stored]
  rw [dateKey, dateKey, hd, hd', Option.bind_map, Option.bind_map, hread, hread]

theorem passes_untimed {row : EventRow} (h : row.Readable) :
    passes now status timeframe moment row = passes now' status timeframe moment row.untimed := by
  rw [passes, passes, dateKey_untimed h]
  rfl

theorem latestFirst_untimed (now now' : Instant) {a b : EventRow} (ha : a.Readable) (hb : b.Readable) :
    latestFirst now a b = latestFirst now' a.untimed b.untimed := by
  rw [latestFirst, latestFirst, dateKey_untimed ha, dateKey_untimed hb]
  rfl

/-- The rows that pass the filters, without their times, are those that pass them without. -/
theorem map_filter_passes (now now' : Instant) {rows : List EventRow}
    (h : ∀ row ∈ rows, row.Readable) :
    (rows.filter (passes now status timeframe moment)).map EventRow.untimed =
      (rows.map EventRow.untimed).filter (passes now' status timeframe moment) := by
  rw [List.filter_map]
  exact congrArg _ (List.filter_congr fun row hrow => passes_untimed (h row hrow))

theorem each_map {α β γ : Type} (f : β → Except Fault γ) (g : α → β) (l : List α) :
    each f (l.map g) = each (f ∘ g) l := by
  induction l with
  | nil => rfl
  | cons a l ih =>
    rw [List.map_cons, each, each, ih]
    rfl

/-- Events are listed alike at any two times. -/
theorem timeless_listEvents : Timeless Eq (listEvents now status timeframe moment)
    (listEvents now' status timeframe moment) := by
  have hlisted : ∀ (now : Instant) (db : Catalogue), db.Readable →
      each EventRow.event
        ((db.events.rows.filter (passes now status timeframe moment)).mergeSort (latestFirst now)) =
      each EventRow.event
        (((db.events.rows.map EventRow.untimed).filter (passes now' status timeframe moment)).mergeSort
          (latestFirst now')) := by
    intro now db hread
    have hmem : ∀ row ∈ db.events.rows.filter (passes now status timeframe moment), row.Readable :=
      fun row hrow => hread row (List.mem_filter.1 hrow).1
    have hsort := List.map_mergeSort (s := latestFirst now') (f := EventRow.untimed)
      fun a ha b hb => latestFirst_untimed now now' (hmem a ha) (hmem b hb)
    rw [← map_filter_passes now now' hread, ← hsort, each_map]
    rfl
  refine timeless_query fun h => ?_
  rw [hlisted now _ h.readable, hlisted now' _ h.readable', h.rows]
  exact ends_of_eq rfl

/-- Readable rows are listed with their times as their events are without. -/
theorem each_eventWithTimes {rows : List EventRow} (h : ∀ row ∈ rows, row.Readable) :
    ∃ es, each eventWithTimes rows = .ok es ∧
      each EventRow.event rows = .ok (es.map Event.WithTimes.event) := by
  induction rows with
  | nil => exact ⟨[], rfl, rfl⟩
  | cons row rows ih =>
    obtain ⟨es, htimes, hevents⟩ := ih fun r hr => h r (List.mem_cons_of_mem _ hr)
    have hread := h row (List.mem_cons_self ..)
    obtain ⟨e, he⟩ := hread.event
    obtain ⟨i, hi⟩ := hread.createdAt
    obtain ⟨j, hj⟩ := hread.updatedAt
    have hrow : eventWithTimes row = .ok ⟨e, i, j⟩ := by
      simp only [eventWithTimes, he, hi, hj, EventRow.storedInstant_stored]
      rfl
    refine ⟨⟨e, i, j⟩ :: es, ?_, ?_⟩
    · rw [each, hrow, htimes]
      rfl
    · rw [each, he, hevents]
      rfl

/-- Events are listed with their times alike, save the times. -/
theorem timeless_listEventsWithTimes :
    Timeless (fun es es' => es.map Event.WithTimes.event = es'.map Event.WithTimes.event)
      (listEventsWithTimes now status timeframe moment)
      (listEventsWithTimes now' status timeframe moment) := by
  refine timeless_query fun {db db'} h => ?_
  have hmem : ∀ row ∈ db.events.rows.filter (passes now status timeframe moment), row.Readable :=
    fun row hrow => h.readable row (List.mem_filter.1 hrow).1
  have hmem' : ∀ row ∈ db'.events.rows.filter (passes now' status timeframe moment), row.Readable :=
    fun row hrow => h.readable' row (List.mem_filter.1 hrow).1
  have hrows : (db.events.rows.filter (passes now status timeframe moment)).map EventRow.untimed =
      (db'.events.rows.filter (passes now' status timeframe moment)).map EventRow.untimed := by
    rw [map_filter_passes now now' h.readable, map_filter_passes now' now' h.readable', h.rows]
  obtain ⟨es, htimes, hevents⟩ := each_eventWithTimes hmem
  obtain ⟨es', htimes', hevents'⟩ := each_eventWithTimes hmem'
  -- both lists of events are those of the same rows without times
  have hsame : each EventRow.event (db.events.rows.filter (passes now status timeframe moment)) =
      each EventRow.event (db'.events.rows.filter (passes now' status timeframe moment)) := by
    have heach : ∀ l : List EventRow, each EventRow.event l =
        each EventRow.event (l.map EventRow.untimed) :=
      fun l => (each_map EventRow.event EventRow.untimed l).symm
    rw [heach, hrows, ← heach]
  rw [htimes, htimes']
  rw [hevents, hevents'] at hsame
  exact .value (Except.ok.inj hsame)

end Listing

end Recital
