import Recital.Proofs.Desk.Intents

/-!
# How commands about pieces and events end

A command is refused before what it nests is resolved, or after; after, nothing that has been resolved stays.

* `Intent.mismatch?` : the fault of an operation that is not the expected one.
* `PieceCommand.earlier?`, `PieceCommand.unresolved?` : the first fault before the composer of a piece is looked at,
  and the first that keeps it from being resolved.
* `Catalogue.uneditable?`, `EventCommand.unresolved?`, `EventDetails.refusal?` : what keeps an event from being edited
  at all, what keeps its venue from being resolved, and the first fault of its details once they have their venue.
* `createPiece_run_of_unresolved`, `createPiece_run_of_resolved`, … : how a command ends before and after what it
  nests has been resolved.
* `PieceCommand.Honoured`, `EventCommand.Honoured` : both ends of each use case.  `honoured` : they are the only ones.
-/

set_option autoImplicit false

namespace Recital

open Step Statement

/-! ## Steps -/

namespace Step

variable {α : Type} {db db' left : Catalogue} {found : Option Fault} {step : Step α} {a : α}

/-- A unit of work that a fault bars leaves the catalogue as it was before all of it. -/
theorem atomically_run_of_barring (h : step.run db = barring found left (.ok a, db')) :
    (atomically step).run db = barring found db (.ok a, db') := by
  cases found with
  | some f => exact atomically_run_of_error (congrArg Prod.fst h)
  | none => exact atomically_run_of_ok h

end Step

theorem Plan.after_run_eq {α : Type} {db : Catalogue} {checked : Except Fault Unit} {step : Step α}
    {found : Option Fault} (h : checked = Fault.raised found) :
    (Plan.after checked step).run.run db = barring found db (step.run db) := by
  rw [h]
  cases found <;> rfl

/-! ## Operations -/

/-- The fault of an operation that is not the expected one; an unsupported one is invalid whatever is expected. -/
def Intent.mismatch? {α : Type} (intent : Intent α) (expected : Operation) : Option Fault :=
  match intent.operation with
  | .unsupported => some .invalidOperation
  | found => if found = expected then none else some (.operationMismatch expected found)

theorem ensure_eq_raised {α : Type} (intent : Intent α) (expected : Operation) :
    intent.ensure expected = Fault.raised (intent.mismatch? expected) := by
  unfold Intent.ensure Intent.mismatch?
  cases intent.operation <;> cases expected <;> rfl

theorem operation_of_mismatch? {α : Type} {intent : Intent α} {expected : Operation}
    (h : intent.mismatch? expected = none) : intent.operation = expected := by
  have hensure : intent.ensure expected = .ok () := by
    rw [ensure_eq_raised, h]
    rfl
  exact operation_of_ensure hensure

/-! ## Details of events -/

/-- The first fault of the details of an event, once they have their venue: a blank title, then a venue and then a
programme that is not there. -/
def EventDetails.refusal? (db : Catalogue) (details : EventDetails) : Option Fault :=
  ((Fault.ofBlank details.title .eventTitle).or (Fault.ofAbsence (db.refers .venue details.venueId))).or
    (Fault.ofAbsence (db.refers .programme details.programmeId))

/-- What keeps an event from being edited at all: it is not there, or is no draft. -/
def Catalogue.uneditable? (db : Catalogue) (id : Int) : Option Fault :=
  match db.events.find? id with
  | none => some .notFound
  | some row => if row.status = .draft then none else some .eventImmutable

/-- An event is shown with its programme, where that exists. -/
theorem Listing.exists_withProgramme (e : Event) (db : Catalogue) :
    ∃ shown : Event.WithProgramme, shown.event = e ∧
      (db.refers .programme e.programmeId = true → (withProgramme e).run db = (.ok shown, db)) := by
  unfold withProgramme
  cases e.programmeId with
  | none => exact ⟨⟨e, none⟩, rfl, fun _ => rfl⟩
  | some p =>
    cases hprogramme : db.programmes.find? p with
    | none =>
      refine ⟨⟨e, none⟩, rfl, fun hhas => ?_⟩
      cases (Table.has_eq_false_of_find? hprogramme).symm.trans hhas
    | some programme =>
      have hfetch : (fetch p : Step Programme).run db = (.ok programme, db) := fetch_run hprogramme
      simp only [programmeWithPieces, bind_run, hfetch]
      exact ⟨_, rfl, fun _ => rfl⟩

namespace Desk

open Listing

variable {db : Catalogue} {now : Instant} {id : Int} {f : Fault}

/-! ## Pieces -/

/-- The first fault of a command about a piece, before its composer is looked at: another operation than the
expected one, then a piece that is named by the path and is not there. -/
def PieceCommand.earlier? (db : Catalogue) (command : PieceCommand) (expected : Operation)
    (path : Option Int) : Option Fault :=
  (command.piece.mismatch? expected).or (Fault.ofAbsence (db.refers .piece path))

/-- The first fault that keeps the composer of a piece from being resolved. -/
def PieceCommand.unresolved? (db : Catalogue) (command : PieceCommand) (expected : Operation)
    (path : Option Int) : Option Fault :=
  (command.earlier? db expected path).or (command.composer.refusal? db)

section Pieces

variable {command : PieceCommand} {composer : Composer} {cs : Table Composer}

theorem validate_of_ofBlank {piece : Piece} (h : Fault.ofBlank piece.title .pieceTitle = none) :
    piece.validate = .ok () := by
  rw [← Fault.ofViolation_firstBlank_singleton] at h
  exact Fault.ofViolation_eq_none_iff.1 h

/-- A piece whose composer is there is refused for its title only. -/
theorem refusal?_of_composer {piece : Intent Piece} (hcomposer : db.has .composer piece.data.composerId = true)
    (h : piece.operation = .create ∨ piece.operation = .update ∧ db.pieces.has piece.data.id = true) :
    piece.refusal? db = Fault.ofBlank piece.data.title .pieceTitle := by
  have hrule : Fault.ofViolation piece.data.validate = Fault.ofBlank piece.data.title .pieceTitle :=
    Fault.ofViolation_firstBlank_singleton _ _
  have hrefers : Fault.ofAbsence (Stored.refers db piece.data) = none :=
    Fault.ofAbsence_eq_none_iff.2 hcomposer
  unfold Intent.refusal?
  rcases h with hop | ⟨hop, hhas⟩
  · simp only [hop]
    rw [hrefers, Option.or_none]
    exact hrule
  · have hthere : Fault.ofAbsence ((Stored.table (α := Piece) db).has (Keyed.id piece.data)) = none :=
      Fault.ofAbsence_eq_none_iff.2 hhas
    simp only [hop]
    rw [hrefers, hthere, Option.or_none, Option.or_none]
    exact hrule

theorem createPiece_run_of_unresolved (h : command.unresolved? db .create none = some f) :
    (createPiece command).run.run db = (.error f, db) := by
  rw [createPiece, Plan.after_run_eq (ensure_eq_raised _ _)]
  rcases Option.or_eq_some_iff.1 h with hfirst | ⟨hfirst, hcomposer⟩
  · have hop : command.piece.mismatch? .create = some f := by
      simpa [PieceCommand.earlier?, Catalogue.refers] using hfirst
    rw [hop, barring_some]
  · rw [(Option.or_eq_none_iff.1 hfirst).1, barring_none]
    refine atomically_run_of_error ?_
    rw [bind_run_of_error (resolve_run_of_refused hcomposer)]

theorem updatePiece_run_of_unresolved (h : command.unresolved? db .update (some id) = some f) :
    (updatePiece id command).run.run db = (.error f, db) := by
  rw [updatePiece, Plan.after_run_eq (ensure_eq_raised _ _)]
  rcases Option.or_eq_some_iff.1 h with hfirst | ⟨hfirst, hcomposer⟩
  · rcases Option.or_eq_some_iff.1 hfirst with hop | ⟨hop, hmissing⟩
    · rw [hop, barring_some]
    · rw [hop, barring_none]
      have hlock : Fault.ofAbsence (db.has .piece id) = some f := hmissing
      refine atomically_run_of_error ?_
      rw [bind_run_of_look (lock_run_eq .piece id db), hlock, barring_some]
  · obtain ⟨hop, hthere⟩ := Option.or_eq_none_iff.1 hfirst
    have hhas : db.has .piece id = true := Fault.ofAbsence_eq_none_iff.1 hthere
    rw [hop, barring_none]
    refine atomically_run_of_error ?_
    rw [bind_run_of_ok (lock_run hhas), bind_run_of_error (resolve_run_of_refused hcomposer)]

/-- A new piece, once its composer has been resolved: only its title can be wrong. -/
theorem createPiece_run_of_resolved {piece : Piece} (hop : command.piece.mismatch? .create = none)
    (hcomposer : Resolved db command.composer composer cs) (hnext : db.pieces.lastId < Text.maxInt64)
    (hpiece : piece = { command.piece.data with id := db.pieces.lastId + 1, composerId := composer.id }) :
    (createPiece command).run.run db =
      barring (Fault.ofBlank command.piece.data.title .pieceTitle) db
        (.ok piece, { db with
          composers := cs
          pieces := ⟨db.pieces.rows ++ [piece], db.pieces.lastId + 1⟩ }) := by
  have hcreate := operation_of_mismatch? hop
  subst hpiece
  rw [createPiece, Plan.after_run_eq (ensure_eq_raised _ _), hop, barring_none]
  refine atomically_run_of_barring <| (bind_run_of_ok hcomposer.run).trans <|
    resolve_run_eq (refusal?_of_composer hcomposer.has (.inl hcreate)) fun hblank => ?_
  exact .created hcreate (validate_of_ofBlank hblank) hcomposer.has (if_pos hnext)

/-- A piece that is there, once its composer has been resolved. -/
theorem updatePiece_run_of_resolved {piece : Piece} (hop : command.piece.mismatch? .update = none)
    (hhas : db.pieces.has id = true) (hcomposer : Resolved db command.composer composer cs)
    (hpiece : piece = { command.piece.data with id := id, composerId := composer.id }) :
    (updatePiece id command).run.run db =
      barring (Fault.ofBlank command.piece.data.title .pieceTitle) db
        (.ok piece, { db with composers := cs, pieces := db.pieces.put piece }) := by
  have hupdate := operation_of_mismatch? hop
  have hlock : db.has .piece id = true := hhas
  subst hpiece
  rw [updatePiece, Plan.after_run_eq (ensure_eq_raised _ _), hop, barring_none]
  refine atomically_run_of_barring <| (bind_run_of_ok (lock_run hlock)).trans <|
    (bind_run_of_ok hcomposer.run).trans <|
    resolve_run_eq (refusal?_of_composer hcomposer.has (.inr ⟨hupdate, hhas⟩)) fun hblank => ?_
  exact .updated hupdate (validate_of_ofBlank hblank) hcomposer.has hhas

end Pieces

/-! ## Events -/

/-- The fault that keeps the venue of an event from being resolved. -/
def EventCommand.unresolved? (db : Catalogue) (command : EventCommand) : Option Fault :=
  command.venue.bind (Intent.refusal? db)

/-- The details of a command once its venue has been resolved, and the venues then. -/
def EventCommand.Leaves (db : Catalogue) (command : EventCommand) (details : EventDetails)
    (venues : Table Venue) : Prop :=
  match command.venue with
  | none => details = command.event ∧ venues = db.venues
  | some intent => ∃ venue, intent.Leaves db venue venues ∧
      details = { command.event with venueId := some venue.id }

section Events

variable {command : EventCommand} {details : EventDetails} {vs : Table Venue}

theorem VenueResolved.leaves (h : VenueResolved db command details vs) (hsound : db.venues.Sound) :
    command.Leaves db details vs := by
  unfold EventCommand.Leaves
  cases h with
  | given hnone =>
    rw [hnone]
    exact ⟨rfl, rfl⟩
  | resolved hsome hvenue =>
    rw [hsome]
    exact ⟨_, hvenue.leaves hsound, rfl⟩

theorem exists_venueResolved (h : command.unresolved? db = none) (hnext : db.venues.lastId < Text.maxInt64) :
    ∃ details vs, VenueResolved db command details vs := by
  unfold EventCommand.unresolved? at h
  cases hvenue : command.venue with
  | none => exact ⟨_, _, .given hvenue⟩
  | some intent =>
    rw [hvenue] at h
    obtain ⟨venue, t, hresolved⟩ := exists_resolved h hnext
    exact ⟨_, _, .resolved hvenue hresolved⟩

theorem resolveVenue_run_of_unresolved (h : command.unresolved? db = some f) :
    (resolveVenue command).run db = (.error f, db) := by
  obtain ⟨intent, hvenue, hrefused⟩ := Option.bind_eq_some_iff.1 h
  simp only [resolveVenue, hvenue]
  rw [bind_run_of_error (resolve_run_of_refused hrefused)]

theorem requireReference_run_eq (kind : Kind) (reference : Option Int) (db : Catalogue) :
    (requireReference kind reference).run db =
      (Fault.raised (Fault.ofAbsence (db.refers kind reference)), db) := by
  cases reference with
  | none => rfl
  | some id => exact require_run_eq kind id db

/-- What is looked at between the venue of an event and its row, before the rest. -/
theorem looked_run {β : Type} (e : Event) {rest : Step β} {ended : Except Fault β × Catalogue}
    (h : e.details.refusal? db = none → rest.run db = ended) :
    (do
      check (valid e.validate)
      requireReferences e
      rest).run db = barring (e.details.refusal? db) db ended := by
  have hreferences : (requireReferences e).run db = (Fault.raised
      ((Fault.ofAbsence (db.refers .venue e.venueId)).or
        (Fault.ofAbsence (db.refers .programme e.programmeId))), db) := by
    rw [requireReferences, bind_run_of_look (requireReference_run_eq _ _ db), requireReference_run_eq]
    cases Fault.ofAbsence (db.refers .venue e.venueId) <;> rfl
  have htitle : Fault.ofViolation e.validate = Fault.ofBlank e.title .eventTitle :=
    Fault.ofViolation_firstBlank_singleton _ _
  have hlooks : (Fault.ofBlank e.title .eventTitle).or ((Fault.ofAbsence (db.refers .venue e.venueId)).or
      (Fault.ofAbsence (db.refers .programme e.programmeId))) = e.details.refusal? db :=
    Option.or_assoc.symm
  rw [bind_run_of_look (check_valid_run _ db), bind_run_of_look hreferences, htitle, ← barring_or, hlooks]
  cases hrefusal : e.details.refusal? db with
  | some g => rfl
  | none => exact h hrefusal

theorem refers_of_refusal? (h : details.refusal? db = none) :
    db.refers .venue details.venueId = true ∧ db.refers .programme details.programmeId = true := by
  obtain ⟨hfirst, hprogramme⟩ := Option.or_eq_none_iff.1 h
  obtain ⟨-, hvenue⟩ := Option.or_eq_none_iff.1 hfirst
  exact ⟨Fault.ofAbsence_eq_none_iff.1 hvenue, Fault.ofAbsence_eq_none_iff.1 hprogramme⟩

theorem insertEvent_run {e : Event} (hrefers : db.refers .venue e.venueId = true ∧
    db.refers .programme e.programmeId = true) (hnext : db.events.lastId < Text.maxInt64) :
    (insertEvent now e).run db = (.ok { e with id := db.events.lastId + 1 },
      { db with events := ⟨db.events.rows ++
        [Keyed.withId (db.events.lastId + 1) (EventRow.ofEvent now e)], db.events.lastId + 1⟩ }) := by
  have hinsert : (insert (EventRow.ofEvent now e)).run db = _ :=
    insert_run (Catalogue.refers_stored.2 hrefers) (if_pos hnext)
  refine (bind_run_of_ok hinsert).trans ?_
  rw [check_run, EventRow.event_ofEvent]
  rfl

theorem createEvent_run_of_unresolved (h : command.unresolved? db = some f) :
    (createEvent now command).run.run db = (.error f, db) := by
  refine atomically_run_of_error ?_
  rw [bind_run_of_error (resolveVenue_run_of_unresolved h)]

/-- A new event, once its venue has been resolved. -/
theorem createEvent_run_of_resolved (hvenue : VenueResolved db command details vs)
    (hnext : db.events.lastId < Text.maxInt64) :
    (createEvent now command).run.run db =
      barring (details.refusal? { db with venues := vs }) db
        (.ok { Event.draft details with id := db.events.lastId + 1 },
          { db with
            venues := vs
            events := ⟨db.events.rows ++
              [Keyed.withId (db.events.lastId + 1) (EventRow.ofEvent now (Event.draft details))],
              db.events.lastId + 1⟩ }) := by
  refine atomically_run_of_barring <| (bind_run_of_ok hvenue.run).trans <|
    looked_run (Event.draft details) fun hnone => ?_
  exact insertEvent_run (refers_of_refusal? hnone) hnext

theorem check_mutable_run (e : Event) (db : Catalogue) : (check e.mutable).run db =
    (Fault.raised (if e.status = .draft then none else some .eventImmutable), db) := by
  rw [check_run, Event.mutable]
  cases e.status <;> rfl

theorem updateEvent_run_of_unresolved (hread : db.Readable)
    (h : (db.uneditable? id).or (command.unresolved? db) = some f) :
    (updateEvent now id command).run.run db = (.error f, db) := by
  refine atomically_run_of_error ?_
  cases hrow : db.events.find? id with
  | none =>
    rw [Catalogue.uneditable?, hrow] at h
    cases h
    have hmissing : db.has .event id = false := Table.has_eq_false_of_find? hrow
    rw [bind_run_of_error (lock_run_of_missing hmissing)]
  | some row =>
    have hstate : db.uneditable? id = if row.status = .draft then none else some .eventImmutable := by
      rw [Catalogue.uneditable?, hrow]
    obtain ⟨e, he⟩ := (hread row (Table.mem_of_find? hrow)).event
    have hlock : db.has .event id = true := Table.has_of_find? hrow
    rw [bind_run_of_ok (lock_run hlock), bind_run_of_ok (fetchEvent_run hrow he),
      bind_run_of_look (check_mutable_run e db), (EventRow.shownAs_of_event he).status, ← hstate]
    -- the event is looked at in full before its venue
    rcases Option.or_eq_some_iff.1 h with hfrozen | ⟨hdraft, hvenue⟩
    · rw [hfrozen, barring_some]
    · rw [hdraft, barring_none, bind_run_of_error (resolveVenue_run_of_unresolved hvenue)]

/-- A draft, once its venue has been resolved. -/
theorem updateEvent_run_of_resolved {row : EventRow} {e : Event} {shown : Event.WithProgramme}
    (hrow : db.events.find? id = some row) (he : row.event = .ok e) (hdraft : row.status = .draft)
    (hvenue : VenueResolved db command details vs)
    (hshown : details.refusal? { db with venues := vs } = none →
      (Listing.withProgramme (e.apply details)).run
          { db with venues := vs, events := db.events.put (row.edited now details) } =
        (.ok shown, { db with venues := vs, events := db.events.put (row.edited now details) })) :
    (updateEvent now id command).run.run db =
      barring (details.refusal? { db with venues := vs }) db
        (.ok shown, { db with venues := vs, events := db.events.put (row.edited now details) }) := by
  have hevent := EventRow.shownAs_of_event he
  have hid : e.id = id := hevent.id.trans (Table.id_of_find? hrow)
  have hlock : db.has .event id = true := Table.has_of_find? hrow
  have hmutable : (check e.mutable).run db = (.ok (), db) := by
    rw [check_run, Event.mutable_ok (hevent.status.trans hdraft)]
  refine atomically_run_of_barring <| (bind_run_of_ok (lock_run hlock)).trans <|
    (bind_run_of_ok (fetchEvent_run hrow he)).trans <| (bind_run_of_ok hmutable).trans <|
    (bind_run_of_ok hvenue.run).trans <| looked_run (e.apply details) fun hnone => ?_
  have hupdate : (Statement.updateEvent now (e.apply details)).run { db with venues := vs } = _ :=
    updateEvent_run (hid ▸ hrow) (refers_of_refusal? hnone) (EventRow.event_edited he details)
  exact (bind_run_of_ok hupdate).trans (hshown hnone)

end Events

/-! ## What is promised of commands -/

/-- How a command about a piece ends. -/
structure PieceCommand.Honoured (db : Catalogue) (command : PieceCommand) : Prop where
  createRefused : ∀ f, command.unresolved? db .create none = some f →
    (createPiece command).run.run db = (.error f, db)
  /-- The composer is resolved, and a blank title is all that can take it back. -/
  create : command.unresolved? db .create none = none → ∃ composer composers piece,
    command.composer.Leaves db composer composers ∧
    piece = { command.piece.data with id := db.pieces.lastId + 1, composerId := composer.id } ∧
    (createPiece command).run.run db =
      barring (Fault.ofBlank command.piece.data.title .pieceTitle) db
        (.ok piece, { db with
          composers := composers
          pieces := ⟨db.pieces.rows ++ [piece], db.pieces.lastId + 1⟩ })
  updateRefused : ∀ id f, command.unresolved? db .update (some id) = some f →
    (updatePiece id command).run.run db = (.error f, db)
  update : ∀ id, command.unresolved? db .update (some id) = none → ∃ composer composers piece,
    command.composer.Leaves db composer composers ∧
    piece = { command.piece.data with id := id, composerId := composer.id } ∧
    (updatePiece id command).run.run db =
      barring (Fault.ofBlank command.piece.data.title .pieceTitle) db
        (.ok piece, { db with composers := composers, pieces := db.pieces.put piece })

/-- How a command about an event ends at a moment. -/
structure EventCommand.Honoured (db : Catalogue) (now : Instant) (command : EventCommand) : Prop where
  createRefused : ∀ f, command.unresolved? db = some f →
    (createEvent now command).run.run db = (.error f, db)
  /-- The venue is resolved, and a fault of the details takes it back.  What is made is a draft without notes. -/
  create : command.unresolved? db = none → ∃ details venues, command.Leaves db details venues ∧
    (createEvent now command).run.run db =
      barring (details.refusal? { db with venues := venues }) db
        (.ok {
          id := db.events.lastId + 1, title := details.title, date := details.date,
          ticketLink := details.ticketLink, venueId := details.venueId, programmeId := details.programmeId,
          status := .draft, notes := none },
        { db with
          venues := venues
          events := ⟨db.events.rows ++ [{
            id := db.events.lastId + 1, title := details.title, date := details.date.map Instant.stored,
            ticketLink := details.ticketLink, venueId := details.venueId, programmeId := details.programmeId,
            status := .draft, notes := none, createdAt := now.stored, updatedAt := now.stored }],
            db.events.lastId + 1⟩ })
  updateRefused : ∀ id f, (db.uneditable? id).or (command.unresolved? db) = some f →
    (updateEvent now id command).run.run db = (.error f, db)
  /-- Id, status and notes stay, and so does the time at which the event was made. -/
  update : ∀ id, (db.uneditable? id).or (command.unresolved? db) = none →
    ∃ row e details venues shown, db.events.find? id = some row ∧ row.event = .ok e ∧
      command.Leaves db details venues ∧
      shown.event = { e with
        title := details.title, date := details.date, ticketLink := details.ticketLink,
        venueId := details.venueId, programmeId := details.programmeId } ∧
      (updateEvent now id command).run.run db =
        barring (details.refusal? { db with venues := venues }) db
          (.ok shown, { db with
            venues := venues
            events := db.events.put { row with
              title := details.title, date := details.date.map Instant.stored,
              ticketLink := details.ticketLink, venueId := details.venueId,
              programmeId := details.programmeId, updatedAt := now.stored } })

/-- **Every command about a piece is honoured** on a catalogue with integrity that has ids left. -/
theorem PieceCommand.honoured (command : PieceCommand) (hintegrity : db.Integrity)
    (hids : ∀ kind, db.lastId kind ≠ Text.maxInt64) : command.Honoured db := by
  have hnext := hintegrity.composers.lastId_lt (hids .composer)
  refine ⟨fun f hf => createPiece_run_of_unresolved hf, fun hnone => ?_,
    fun id f hf => updatePiece_run_of_unresolved hf, fun id hnone => ?_⟩
  · obtain ⟨hfirst, hcomposer⟩ := Option.or_eq_none_iff.1 hnone
    obtain ⟨hop, -⟩ := Option.or_eq_none_iff.1 hfirst
    obtain ⟨composer, cs, hresolved⟩ := exists_resolved hcomposer hnext
    exact ⟨composer, cs, _, hresolved.leaves hintegrity.composers, rfl,
      createPiece_run_of_resolved hop hresolved (hintegrity.pieces.lastId_lt (hids .piece)) rfl⟩
  · obtain ⟨hfirst, hcomposer⟩ := Option.or_eq_none_iff.1 hnone
    obtain ⟨hop, hthere⟩ := Option.or_eq_none_iff.1 hfirst
    have hhas : db.pieces.has id = true := Fault.ofAbsence_eq_none_iff.1 hthere
    obtain ⟨composer, cs, hresolved⟩ := exists_resolved hcomposer hnext
    exact ⟨composer, cs, _, hresolved.leaves hintegrity.composers, rfl,
      updatePiece_run_of_resolved hop hhas hresolved rfl⟩

/-- A draft is what can be edited. -/
theorem exists_draft_of_uneditable? (h : db.uneditable? id = none) :
    ∃ row, db.events.find? id = some row ∧ row.status = .draft := by
  unfold Catalogue.uneditable? at h
  split at h
  · cases h
  rename_i row hrow
  split at h
  · rename_i hdraft
    exact ⟨row, hrow, hdraft⟩
  · cases h

/-- **Every command about an event is honoured** on a readable catalogue with integrity that has ids left. -/
theorem EventCommand.honoured (command : EventCommand) (now : Instant) (hintegrity : db.Integrity)
    (hread : db.Readable) (hids : ∀ kind, db.lastId kind ≠ Text.maxInt64) : command.Honoured db now := by
  have hnext := hintegrity.venues.lastId_lt (hids .venue)
  refine ⟨fun f hf => createEvent_run_of_unresolved hf, fun hnone => ?_,
    fun id f hf => updateEvent_run_of_unresolved hread hf, fun id hnone => ?_⟩
  · obtain ⟨details, vs, hresolved⟩ := exists_venueResolved hnone hnext
    exact ⟨details, vs, hresolved.leaves hintegrity.venues,
      createEvent_run_of_resolved hresolved (hintegrity.events.lastId_lt (hids .event))⟩
  · obtain ⟨heditable, hvenue⟩ := Option.or_eq_none_iff.1 hnone
    obtain ⟨row, hrow, hdraft⟩ := exists_draft_of_uneditable? heditable
    obtain ⟨e, he⟩ := (hread row (Table.mem_of_find? hrow)).event
    obtain ⟨details, vs, hresolved⟩ := exists_venueResolved hvenue hnext
    obtain ⟨shown, hevent, hshown⟩ := exists_withProgramme (e.apply details)
      { db with venues := vs, events := db.events.put (row.edited now details) }
    refine ⟨row, e, details, vs, shown, hrow, he, hresolved.leaves hintegrity.venues, hevent, ?_⟩
    exact updateEvent_run_of_resolved hrow he hdraft hresolved fun hrefusal =>
      hshown (refers_of_refusal? hrefusal).2

end Desk

end Recital
