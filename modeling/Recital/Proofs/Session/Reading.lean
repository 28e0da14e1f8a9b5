import Recital.Proofs.Catalogue.Programmes
import Recital.Proofs.Desk.Protection
import Recital.Proofs.Session.Run

/-!
# What is read of the catalogue

* `counts_agree` : after every run, the counts that are shown, those that are asked for and the removals
  that they forbid agree.
* `Session.Shows` : an order is answered by showing a value, and nothing changes.
* `ShownWhole` : what is shown of a programme is all there is of it.
* `programmes_shown` : after every run, every programme is shown whole, alone and within the events that
  perform it.
-/

set_option autoImplicit false

namespace Recital

namespace Session

open Step Statement

/-! ## Counts -/

/-- **What is shown of the dependents of an entity, what counts them and what they protect agree**,
whatever has reached the service.  A piece is counted once for each programme that has it, in however many
slots. -/
theorem counts_agree (visits : List (Instant × Visit)) :
    Agrees Composer (after visits).catalogue ∧ Agrees Piece (after visits).catalogue ∧
    Agrees Venue (after visits).catalogue ∧ Agrees Programme (after visits).catalogue ∧
    (∀ id d, (Listing.detailsOf Programme id).run (after visits).catalogue =
        (.ok d, (after visits).catalogue) →
      (count .programmePieces id).run (after visits).catalogue =
        (.ok d.pieceCount, (after visits).catalogue)) ∧
    ∀ id, (count .pieceProgrammes id).run (after visits).catalogue =
      (.ok ((after visits).catalogue.programmes.rows.countP fun p =>
        (after visits).catalogue.slots.any fun s => s.programmeId = p.id ∧ s.pieceId = id),
        (after visits).catalogue) := by
  have hintegrity := (serving_after visits).sound.integrity
  generalize (after visits).catalogue = db at *
  refine ⟨agrees hintegrity, agrees hintegrity, agrees hintegrity, agrees hintegrity, ?_, ?_⟩
  · intro id d hd
    obtain ⟨row, hrow, rfl⟩ := row_of_detailsOf hd
    obtain rfl := Table.id_of_find? hrow
    rw [count, query_run, Dependency.programmePieces_eq_countP]
    rfl
  · intro id
    rw [count, query_run, Dependency.pieceProgrammes_eq hintegrity]

/-! ## Programmes -/

/-- The order is answered by showing a value, and so is every request for it on an open catalogue.  Nothing
changes. -/
def Shows {α : Type} [Showable α] (s : Session) (now : Instant) (order : Http.Order) (a : α) : Prop :=
  order.respond now s.catalogue = (.shown a, s.catalogue) ∧
  (s.isOpen = true → ∀ request : Http.Request, request.order = .ok order →
    s.respond now request = (request.trim (.shown a), s))

variable {s : Session} {now : Instant}

/-- What a step reads is shown. -/
theorem shows_of_run {α : Type} [Showable α] {order : Http.Order} {step : Step α} {a : α}
    (hplan : order.plan now = .inr (Http.showing (.step step)))
    (hrun : step.run s.catalogue = (.ok a, s.catalogue)) : s.Shows now order a := by
  have hshown : (Http.showing (.step step)).run.run s.catalogue =
      (.ok (.shown a), s.catalogue) := by
    show (step >>= fun a => pure (Http.Response.shown a)).run s.catalogue = _
    simp only [bind_run, hrun, pure_run]
  have hrespond : order.respond now s.catalogue = (.shown a, s.catalogue) := by
    simp only [Http.Order.respond, hplan, hshown, Http.answer]
  refine ⟨hrespond, fun hopen request horder => ?_⟩
  have hrequest : Http.respond now request s.catalogue =
      (request.trim (.shown a), s.catalogue) := by
    simp only [Http.respond, horder, hrespond]
  rw [respond, if_pos hopen, hrequest]

/-- What is shown of a programme is all there is of it. -/
structure ShownWhole (s : Session) (now : Instant) (p : Programme) (whole : Programme.WithPieces) :
    Prop where
  programme : whole.programme = p
  /-- The slots carry the numbers from one on, without a gap. -/
  sequences : (s.catalogue.slotsOf p.id).map Slot.sequence =
    (List.range (s.catalogue.slotsOf p.id).length).map fun k : Nat => 1 + (k : Int)
  /-- Every slot is shown once, at its place. -/
  entries : whole.pieces.map (fun entry => (entry.sequence, entry.piece.id)) =
    (s.catalogue.slotsOf p.id).map fun slot => (slot.sequence, slot.pieceId)
  details : ∃ d : Programme.Details, s.Shows now (.programme (.details p.id)) d ∧
    d.programme = p ∧ d.pieceCount = whole.pieces.length
  listed : ∃ ds : List Programme.Details, s.Shows now (.programme .list) ds ∧
    (∃ d ∈ ds, d.programme.id = p.id) ∧
    ∀ d ∈ ds, d.programme.id = p.id → d.programme = p ∧ d.pieceCount = whole.pieces.length
  pieces : ∀ entry ∈ whole.pieces,
    ∃ d : Piece.Details, s.Shows now (.piece (.get entry.piece.id)) d ∧ d.piece = entry.piece
  composers : ∀ entry ∈ whole.pieces, entry.composer.id = entry.piece.composerId ∧
    ∃ d : Composer.Details, s.Shows now (.composer (.get entry.composer.id)) d ∧
      d.composer = entry.composer

/-- What is shown of an event is the event and, if it performs a programme, what is shown of that. -/
structure ShownWith (s : Session) (now : Instant) (row : EventRow) (shown : Event.WithProgramme) :
    Prop where
  event : row.event = .ok shown.event
  absent : shown.programme = none ↔ row.programmeId = none
  programme : ∀ id, row.programmeId = some id → ∃ whole, shown.programme = some whole ∧
    s.Shows now (.programme (.get id)) whole

/-- Entries that show slots name their places and their pieces. -/
theorem map_of_shows {db : Catalogue} {slots : List Slot} {entries : List Programme.Entry}
    (h : List.Forall₂ (fun slot entry => Programme.Entry.Shows db slot entry) slots entries) :
    entries.map (fun entry => (entry.sequence, entry.piece.id)) =
      slots.map fun slot => (slot.sequence, slot.pieceId) := by
  induction h with
  | nil => rfl
  | cons hshows _ ih =>
    rw [List.map_cons, List.map_cons, ih, hshows.sequence, ← Table.id_of_find? hshows.piece]
    rfl

theorem shows_of_mem {db : Catalogue} {slots : List Slot} {entries : List Programme.Entry}
    (h : List.Forall₂ (fun slot entry => Programme.Entry.Shows db slot entry) slots entries)
    {entry : Programme.Entry} (hentry : entry ∈ entries) :
    ∃ slot, Programme.Entry.Shows db slot entry := by
  induction h with
  | nil => cases hentry
  | @cons slot _ _ _ hshows _ ih =>
    rcases List.mem_cons.1 hentry with rfl | hentry
    · exact ⟨slot, hshows⟩
    · exact ih hentry

theorem programmeWithPieces_run {db : Catalogue} {id : Int} {p : Programme}
    {entries : List Programme.Entry} (hrow : db.programmes.find? id = some p)
    (hpieces : (Listing.piecesOf id).run db = (.ok entries, db)) :
    (Listing.programmeWithPieces id).run db = (.ok ⟨p, entries⟩, db) := by
  have hfetch : (fetch id : Step Programme).run db = (.ok p, db) := by
    have htable : (Stored.table db).find? id = some p := hrow
    simp only [fetch, query_run, htable]
  simp only [Listing.programmeWithPieces, bind_run, hfetch, hpieces, pure_run]

/-- A programme is shown whole. -/
theorem exists_shownWhole (h : s.catalogue.Integrity) (hf : s.catalogue.Filled) {p : Programme}
    (hp : p ∈ s.catalogue.programmes.rows) (now : Instant) :
    ∃ whole, s.Shows now (.programme (.get p.id)) whole ∧ s.ShownWhole now p whole := by
  have hrow : s.catalogue.programmes.find? p.id = some p := h.programmes.find?_of_mem hp
  obtain ⟨entries, hpieces, hentries⟩ := Listing.piecesOf_run h hf p.id
  have hcount : (s.catalogue.slots.countP fun slot => slot.programmeId = p.id) = entries.length := by
    rw [← Dependency.programmePieces_eq_countP]
    exact hentries.length_eq
  refine ⟨⟨p, entries⟩, shows_of_run rfl (programmeWithPieces_run hrow hpieces), ?_⟩
  refine ⟨rfl, hf.map_sequence p.id, map_of_shows hentries, ?_, ?_, ?_, ?_⟩
  · exact ⟨_, shows_of_run rfl (detailsOf_run_of_find? hrow), rfl, hcount⟩
  · refine ⟨_, shows_of_run rfl rfl, ⟨_, List.mem_map_of_mem hp, rfl⟩, ?_⟩
    intro d hd hid
    obtain ⟨q, hq, rfl⟩ := List.mem_map.1 hd
    have hqrow : s.catalogue.programmes.find? q.id = some q := h.programmes.find?_of_mem hq
    have hqid : q.id = p.id := hid
    rw [hqid, hrow] at hqrow
    obtain rfl := Option.some.inj hqrow
    exact ⟨rfl, hcount⟩
  · intro entry hentry
    obtain ⟨slot, hshows⟩ := shows_of_mem hentries hentry
    have hid : entry.piece.id = slot.pieceId := Table.id_of_find? hshows.piece
    rw [hid]
    exact ⟨_, shows_of_run rfl (detailsOf_run_of_find? hshows.piece), rfl⟩
  · intro entry hentry
    obtain ⟨slot, hshows⟩ := shows_of_mem hentries hentry
    have hid : entry.composer.id = entry.piece.composerId := Table.id_of_find? hshows.composer
    refine ⟨hid, ?_⟩
    rw [hid]
    exact ⟨_, shows_of_run rfl (detailsOf_run_of_find? hshows.composer), rfl⟩

/-- An event is shown with the programme that it performs. -/
theorem exists_shownWith (h : s.catalogue.Sound) (hf : s.catalogue.Filled) {row : EventRow}
    (hrow : row ∈ s.catalogue.events.rows) (now : Instant) :
    ∃ shown, s.Shows now (.event (.get row.id)) shown ∧ s.ShownWith now row shown := by
  obtain ⟨e, he⟩ := (h.events row hrow).readable.event
  have hfind : (Stored.table s.catalogue).find? row.id = some row :=
    h.integrity.events.find?_of_mem hrow
  have hfetch : (fetchEvent row.id).run s.catalogue = (.ok e, s.catalogue) := by
    simp only [fetchEvent, fetch, bind_run, query_run, hfind, check_run, he]
  have hid := (EventRow.shownAs_of_event he).programmeId
  have hshow : ∀ shown, (Listing.withProgramme e).run s.catalogue = (.ok shown, s.catalogue) →
      s.Shows now (.event (.get row.id)) shown := by
    intro shown hrun
    refine shows_of_run rfl ?_
    simp only [Listing.eventWithProgramme, bind_run, hfetch, hrun]
  cases hp : row.programmeId with
  | none =>
    refine ⟨⟨e, none⟩, hshow _ ?_, he, ?_, ?_⟩
    · simp only [Listing.withProgramme, hid.trans hp, pure_run]
    · simp [hp]
    · intro id hsome
      cases hp.symm.trans hsome
  | some id =>
    have hhas := Catalogue.refers_iff.1 (h.integrity.eventRefers row hrow).2 id hp
    obtain ⟨p, hprogramme⟩ := Table.find?_of_has hhas
    obtain ⟨entries, hpieces, -⟩ := Listing.piecesOf_run h.integrity hf id
    have hwhole := programmeWithPieces_run hprogramme hpieces
    refine ⟨⟨e, some ⟨p, entries⟩⟩, hshow _ ?_, he, ?_, ?_⟩
    · simp only [Listing.withProgramme, hid.trans hp, bind_run, hwhole, pure_run]
    · simp [hp]
    · intro k hsome
      cases hp.symm.trans hsome
      exact ⟨_, rfl, shows_of_run rfl hwhole⟩

/-- **Every programme is shown whole, alone and within the events that perform it**, whatever has reached
the service. -/
theorem programmes_shown (visits : List (Instant × Visit)) (now : Instant) :
    (∀ p ∈ (after visits).catalogue.programmes.rows, ∃ whole,
      (after visits).Shows now (.programme (.get p.id)) whole ∧
      (after visits).ShownWhole now p whole) ∧
    ∀ row ∈ (after visits).catalogue.events.rows, ∃ shown,
      (after visits).Shows now (.event (.get row.id)) shown ∧
      (after visits).ShownWith now row shown := by
  have hsound := (serving_after visits).sound
  have hfilled : (after visits).catalogue.Filled :=
    after_induction Catalogue.Filled.fresh (fun h => h) Http.Order.Effect.filled visits
  exact ⟨fun p hp => exists_shownWhole hsound.integrity hfilled hp now,
    fun row hrow => exists_shownWith hsound hfilled hrow now⟩

end Session

end Recital
