import Recital.Proofs.Desk.Refusals
import Recital.Proofs.Session.Reading
import Recital.Proofs.Session.Unread

/-!
# What is written is read back

* `Session.Answers`, `Session.AnswersBiography` : how every request of a reading method for an entity, or for a
  biography, is answered.
* `Session.ReadBack` : what a successful response shows is what is read next, and it is made of what the order
  carries.  One constructor for each order that writes.
* `Effect.readBack` : the effect of an order on a sound catalogue is read back.
* `writes_read_back` : after every run, what a request writes with success is read back by the next one.
-/

set_option autoImplicit false

namespace Recital

open Step Statement

namespace Http

/-- The request has the method, and its path names the biography of a variant. -/
structure Request.AsksBiography (request : Request) (method : Method) (variant : String) : Prop where
  method : Method.ofName? request.method = some method
  place : ∃ p, request.place? = some (.biography p) ∧ Request.parameterText p = .ok variant

theorem order_of_asks_biography {request : Request} {variant : String}
    (h : request.AsksBiography .get variant) : request.order = .ok (.showBiography variant) := by
  obtain ⟨hmethod, p, hplace, hvariant⟩ := h
  rw [order_eq_placeOrder hplace hmethod]
  simp only [Request.placeOrder, hvariant, Except.map]

end Http

namespace Session

open Http

/-! ## Reading -/

/-- The order that shows an entity is answered so, as is every request of a reading method for the place of the
entity, and nothing changes. -/
structure Answers (s : Session) (now : Instant) (kind : Kind) (id : Int) (r : Response) : Prop where
  order : (Request.showOrder kind id).respond now s.catalogue = (r, s.catalogue)
  request : ∀ request : Request, request.Asks .get (.member kind) id →
    s.respond now request = (request.trim r, s)

/-- The same of a biography. -/
structure AnswersBiography (s : Session) (now : Instant) (variant : String) (r : Response) : Prop where
  order : (Order.showBiography variant).respond now s.catalogue = (r, s.catalogue)
  request : ∀ request : Request, request.AsksBiography .get variant →
    s.respond now request = (request.trim r, s)

variable {s : Session} {now later : Instant} {db : Catalogue} {kind : Kind} {id : Int} {r : Response}

/-- A request is answered as its order is. -/
theorem respond_eq_of_order {request : Request} {order : Order} (hopen : s.isOpen = true)
    (horder : request.order = .ok order)
    (h : order.respond now s.catalogue = (r, s.catalogue)) :
    s.respond now request = (request.trim r, s) := by
  have hrequest : Http.respond now request s.catalogue = (request.trim r, s.catalogue) := by
    simp only [Http.respond, horder, h]
  rw [respond, if_pos hopen, hrequest]

theorem answers_of_respond (hopen : s.isOpen = true)
    (h : (Request.showOrder kind id).respond now s.catalogue = (r, s.catalogue)) :
    s.Answers now kind id r :=
  ⟨h, fun _ hasks => respond_eq_of_order hopen (order_of_asks_get hasks) h⟩

/-! ## Reading back -/

/-- What the response to an order shows, with the catalogue `before` the order, is what the session after it
reads at the moment `later`, and it is made of what the order carries. -/
inductive ReadBack (before : Catalogue) (s : Session) (later : Instant) : Order → Response → Prop where
  | createComposer {c : Composer} {d : Composer.Details}
      (hread : s.Answers later .composer d.composer.id (.shown d))
      (hmade : d.composer = { c with id := before.composers.lastId + 1 }) :
      ReadBack before s later (.composer (.create c)) (.created none d.composer)
  | updateComposer {id : Int} {c : Composer} {d : Composer.Details}
      (hread : s.Answers later .composer id (.shown d)) (hmade : d.composer = { c with id := id }) :
      ReadBack before s later (.composer (.update id c)) (.shown d.composer)
  | createPiece {command : Desk.PieceCommand} {d : Piece.Details}
      (hread : s.Answers later .piece d.piece.id (.shown d))
      (hmade : d.piece = { command.piece.data with
        id := before.pieces.lastId + 1, composerId := command.composer.resolvedId before }) :
      ReadBack before s later (.piece (.create command)) (.created command.piece.tempId d.piece)
  | updatePiece {id : Int} {command : Desk.PieceCommand} {d : Piece.Details}
      (hread : s.Answers later .piece id (.shown d))
      (hmade : d.piece = { command.piece.data with
        id := id, composerId := command.composer.resolvedId before }) :
      ReadBack before s later (.piece (.update id command)) (.shown d.piece)
  | createVenue {venue : Intent Venue} {d : Venue.Details}
      (hread : s.Answers later .venue d.venue.id (.shown d))
      (hmade : d.venue = { venue.data with id := before.venues.lastId + 1 }) :
      ReadBack before s later (.venue (.create venue)) (.created venue.tempId d.venue)
  | updateVenue {id : Int} {venue : Intent Venue} {d : Venue.Details}
      (hread : s.Answers later .venue id (.shown d)) (hmade : d.venue = { venue.data with id := id }) :
      ReadBack before s later (.venue (.update id venue)) (.shown d.venue)
  | createProgramme {p : Programme} {whole : Programme.WithPieces}
      (hread : s.Answers later .programme whole.programme.id (.shown whole))
      (hmade : whole.programme = { p with id := before.programmes.lastId + 1 }) :
      ReadBack before s later (.programme (.create p)) (.created none whole.programme)
  | updateProgramme {id : Int} {p : Programme} {whole : Programme.WithPieces}
      (hread : s.Answers later .programme id (.shown whole))
      (hmade : whole.programme = { p with id := id }) :
      ReadBack before s later (.programme (.update id p)) (.shown whole.programme)
  /-- The pieces of a programme are shown whole. -/
  | replacePieces {id : Int} {pieceIds : List Int} {whole : Programme.WithPieces}
      (hread : s.Answers later .programme id (.shown whole))
      (hprogramme : before.programmes.find? id = some whole.programme)
      (hpieces : whole.pieces.map (fun entry => (entry.sequence, entry.piece.id)) = sequenced pieceIds) :
      ReadBack before s later (.programme (.replacePieces id pieceIds)) (.shown whole)
  | createEvent {command : Desk.EventCommand} {shown : Event.WithProgramme}
      (hread : s.Answers later .event shown.event.id (.shown shown))
      (hmade : shown.event =
        { Event.draft (command.resolvedDetails before) with id := before.events.lastId + 1 }) :
      ReadBack before s later (.event (.create command)) (.created command.tempId shown.event)
  /-- An event that is edited is shown whole.  It keeps its status and its notes. -/
  | updateEvent {id : Int} {command : Desk.EventCommand} {row : EventRow} {old : Event}
      {shown : Event.WithProgramme} (hread : s.Answers later .event id (.shown shown))
      (hrow : before.events.find? id = some row) (hold : row.event = .ok old)
      (hmade : shown.event = old.apply (command.resolvedDetails before)) :
      ReadBack before s later (.event (.update id command)) (.shown shown)
  | updateNotes {id : Int} {notes : Option String} {row : EventRow} {old : Event}
      {shown : Event.WithProgramme} (hread : s.Answers later .event id (.shown shown))
      (hrow : before.events.find? id = some row) (hold : row.event = .ok old)
      (hmade : shown.event = { old with notes := notes }) :
      ReadBack before s later (.event (.updateNotes id notes)) (.shown shown.event)
  | moving {order : Order} {id : Int} {status : Status} {row : EventRow} {old : Event}
      {shown : Event.WithProgramme} (horder : order = .event (.moving id status))
      (hread : s.Answers later .event id (.shown shown))
      (hrow : before.events.find? id = some row) (hold : row.event = .ok old)
      (hmade : shown.event = { old with status := status }) :
      ReadBack before s later order (.shown shown.event)
  | updateBiography {name content : String} {variant : Biography.Variant}
      (hvariant : Biography.Variant.parse name = .ok variant)
      (hread : s.AnswersBiography later name (.shown (⟨content, variant⟩ : Biography))) :
      ReadBack before s later (.updateBiography name content)
        (.shown (⟨content, variant⟩ : Biography))
  /-- What is removed is not found. -/
  | delete {order : Order} {kind : Kind} {id : Int} {r : Response}
      (horder : order = Request.deleteOrder kind id) (hread : s.Answers later kind id r)
      (hstatus : r.status = 404)
      (hcode : r.at? ["error", "code"] = some (.string "RESOURCE_NOT_FOUND")) :
      ReadBack before s later order .noContent

/-! ## What is there, and what is not -/

/-- A row that is there is read with its counts. -/
theorem answers_details {α δ : Type} [Protected α δ] [Showable δ] {row : α} (hopen : s.isOpen = true)
    (hplan : (Request.showOrder kind id).plan now = .inr (showing (.step (Listing.detailsOf α id))))
    (hrow : (Stored.table s.catalogue).find? id = some row) :
    s.Answers now kind id (.shown (Detailed.details s.catalogue row)) :=
  answers_of_respond hopen (shows_of_run hplan (detailsOf_run_of_find? hrow)).1

/-- A programme that is there is read with its pieces. -/
theorem answers_programme (hopen : s.isOpen = true) (hi : s.catalogue.Integrity)
    (hf : s.catalogue.Filled) {p : Programme} (hrow : s.catalogue.programmes.find? id = some p) :
    ∃ whole, s.Answers now .programme id (.shown whole) ∧ whole.programme = p ∧
      (Listing.programmeWithPieces id).run s.catalogue = (.ok whole, s.catalogue) ∧
      whole.pieces.map (fun entry => (entry.sequence, entry.piece.id)) =
        (s.catalogue.slotsOf id).map fun slot => (slot.sequence, slot.pieceId) := by
  obtain ⟨entries, hpieces, hentries⟩ := Listing.piecesOf_run hi hf id
  have hrun := programmeWithPieces_run hrow hpieces
  refine ⟨⟨p, entries⟩, answers_of_respond hopen (shows_of_run rfl hrun).1, rfl, hrun, ?_⟩
  exact map_of_shows hentries

/-- An event that is there is read as it is shown with its programme. -/
theorem answers_withProgramme (hopen : s.isOpen = true) {row : EventRow} {e : Event}
    {shown : Event.WithProgramme} (hrow : s.catalogue.events.find? id = some row)
    (he : row.event = .ok e)
    (hrun : (Listing.withProgramme e).run s.catalogue = (.ok shown, s.catalogue)) :
    s.Answers now .event id (.shown shown) := by
  have hread : (Listing.eventWithProgramme id).run s.catalogue = (.ok shown, s.catalogue) := by
    rw [Listing.eventWithProgramme, bind_run_of_ok (fetchEvent_run hrow he), hrun]
  exact answers_of_respond hopen (shows_of_run rfl hread).1

/-- An event that is there is read with the programme that it performs. -/
theorem answers_event (hopen : s.isOpen = true) (h : s.catalogue.Sound) (hf : s.catalogue.Filled)
    {row : EventRow} (hrow : s.catalogue.events.find? id = some row) {e : Event}
    (he : row.event = .ok e) :
    ∃ shown : Event.WithProgramme, s.Answers now .event id (.shown shown) ∧ shown.event = e := by
  obtain ⟨shown, hshows, hshown⟩ := exists_shownWith h hf (Table.mem_of_find? hrow) now
  obtain rfl : row.id = id := Table.id_of_find? hrow
  exact ⟨shown, answers_of_respond hopen hshows.1, Except.ok.inj (hshown.event.symm.trans he)⟩

/-- What a step cannot read is answered with its fault. -/
theorem respond_of_run_error {α : Type} [Showable α] {order : Order} {step : Step α} {e : Fault}
    (hplan : order.plan now = .inr (showing (.step step))) (hrun : step.run db = (.error e, db)) :
    order.respond now db = (.ofFault e, db) :=
  respond_of_plan_error hplan hrun

theorem detailsOf_run_of_missing {α δ : Type} [Protected α δ]
    (h : (Stored.table (α := α) db).has id = false) :
    (Listing.detailsOf α id).run db = (.error .notFound, db) :=
  detailsOf_run_of_none (Table.find?_eq_none_of_has h)

/-- What is not there is not found. -/
theorem respond_showOrder_of_missing (hhas : db.has kind id = false) :
    (Request.showOrder kind id).respond now db = (.ofFault .notFound, db) := by
  cases kind with
  | composer => exact respond_of_run_error rfl (detailsOf_run_of_missing (α := Composer) hhas)
  | piece => exact respond_of_run_error rfl (detailsOf_run_of_missing (α := Piece) hhas)
  | venue => exact respond_of_run_error rfl (detailsOf_run_of_missing (α := Venue) hhas)
  | programme =>
    have hfetch : (fetch id : Step Programme).run db = _ := fetch_run_of_missing hhas
    have hrun : (Listing.programmeWithPieces id).run db = (.error .notFound, db) := by
      simp only [Listing.programmeWithPieces, bind_run, hfetch]
    exact respond_of_run_error rfl hrun
  | event =>
    have hfetch : (fetch id : Step EventRow).run db = _ := fetch_run_of_missing hhas
    have hrun : (Listing.eventWithProgramme id).run db = (.error .notFound, db) := by
      simp only [Listing.eventWithProgramme, fetchEvent, bind_run, hfetch]
    exact respond_of_run_error rfl hrun

/-- A biography that is there is read. -/
theorem answersBiography (hopen : s.isOpen = true) {name content : String} {variant : Biography.Variant}
    (hvariant : Biography.Variant.parse name = .ok variant)
    (hget : s.catalogue.biographies.get? variant = some content) :
    s.AnswersBiography now name (.shown (⟨content, variant⟩ : Biography)) := by
  have hplan : (Order.showBiography name).plan now = .inr (showing (.step (biography variant))) := by
    simp only [Order.plan, Desk.showBiography, hvariant]
    rfl
  have hread : (biography variant).run s.catalogue = (.ok ⟨content, variant⟩, s.catalogue) := by
    simp only [biography, query_run, hget]
  have h := (shows_of_run hplan hread).1
  exact ⟨h, fun _ hasks => respond_eq_of_order hopen (order_of_asks_biography hasks) h⟩

/-! ## Effects -/

section Effects

variable {order : Order} {row new : EventRow} {made : Event}

theorem readBack_delete (kind : Kind) (id : Int) (hopen : s.isOpen = true)
    (hgone : s.catalogue.has kind id = false) :
    ReadBack db s later (Request.deleteOrder kind id) .noContent :=
  .delete rfl (answers_of_respond hopen (respond_showOrder_of_missing hgone)) rfl rfl

/-- A stored event that has been changed is read back. -/
theorem exists_answers_put (now : Instant) (hopen : s.isOpen = true) (h : s.catalogue.Sound)
    (hf : s.catalogue.Filled) (hrow : db.events.find? id = some row)
    (hevents : s.catalogue.events = db.events.put new)
    (hid : Keyed.id new = Keyed.id row) (hmade : new.event = .ok made) :
    ∃ shown : Event.WithProgramme, s.Answers now .event id (.shown shown) ∧ shown.event = made := by
  refine answers_event hopen h hf ?_ hmade
  rw [hevents]
  exact Table.find?_put_of_id hrow hid

theorem readBack_moving (status : Status) (hopen : s.isOpen = true) (hsound : db.Sound)
    (h : s.catalogue.Sound) (hf : s.catalogue.Filled) (hrow : db.events.find? id = some row)
    (hmade : (row.moved now status).event = .ok made)
    (hevents : s.catalogue.events = db.events.put (row.moved now status)) :
    ReadBack db s later (.event (.moving id status)) (.shown made) := by
  obtain ⟨old, hold⟩ := (hsound.events row (Table.mem_of_find? hrow)).readable.event
  obtain ⟨shown, hread, rfl⟩ := exists_answers_put later hopen h hf hrow hevents rfl hmade
  have hevent := hmade.symm.trans (EventRow.event_moved hold status)
  exact .moving rfl hread hrow hold (Except.ok.inj hevent)

/-- **The effect of every order that writes is read back.** -/
theorem readBack_of_effect (hopen : s.isOpen = true) (hsound : db.Sound) (hfilled : db.Filled)
    (hwrites : order.isReading = false) (heffect : order.Effect now db r s.catalogue) :
    ReadBack db s later order r := by
  have h := heffect.sound hsound
  have hf := heffect.filled hfilled
  have hi := hsound.integrity
  obtain ⟨db', kept, isOpen⟩ := s
  simp only at hopen h hf heffect
  cases heffect with
  | reading hreading hsuccess => cases hreading.symm.trans hwrites
  | createComposer hvalid hnew =>
    have hrow := hi.composers.find?_insert? hnew
    obtain ⟨rfl, -⟩ := Table.new_of_insert? hnew
    exact .createComposer (answers_details hopen rfl hrow) rfl
  | updateComposer hvalid hhas =>
    exact .updateComposer (answers_details hopen rfl (Table.find?_put_self hhas)) rfl
  | deleteComposer hhas hfree => exact readBack_delete .composer _ hopen Table.has_erase_self
  | @createPiece command composer new cs ps hop hcomposer hvalid hnew =>
    have hrow := hi.pieces.find?_insert? hnew
    obtain ⟨rfl, -⟩ := Table.new_of_insert? hnew
    have hid : composer.id = command.composer.resolvedId db := hcomposer.id_eq
    exact .createPiece (answers_details hopen rfl hrow)
      (congrArg (fun k => { command.piece.data with id := db.pieces.lastId + 1, composerId := k }) hid)
  | @updatePiece id command composer cs hop hcomposer hvalid hhas =>
    have hid : composer.id = command.composer.resolvedId db := hcomposer.id_eq
    exact .updatePiece (answers_details hopen rfl (Table.find?_put_self hhas))
      (congrArg (fun k => { command.piece.data with id := id, composerId := k }) hid)
  | deletePiece hhas hfree => exact readBack_delete .piece _ hopen Table.has_erase_self
  | createVenue hop hvalid hnew =>
    have hrow := hi.venues.find?_insert? hnew
    obtain ⟨rfl, -⟩ := Table.new_of_insert? hnew
    exact .createVenue (answers_details hopen rfl hrow) rfl
  | updateVenue hop hvalid hhas =>
    exact .updateVenue (answers_details hopen rfl (Table.find?_put_self hhas)) rfl
  | deleteVenue hhas hfree => exact readBack_delete .venue _ hopen Table.has_erase_self
  | @createProgramme p new t hvalid hnew =>
    have hrow := hi.programmes.find?_insert? hnew
    obtain ⟨rfl, -⟩ := Table.new_of_insert? hnew
    obtain ⟨whole, hread, hwhole, -⟩ :=
      answers_programme (s := ⟨_, kept, isOpen⟩) hopen h.integrity hf hrow
    have hshown : Response.created none (Keyed.withId (db.programmes.lastId + 1) p : Programme) =
        .created none whole.programme := congrArg _ hwhole.symm
    rw [hshown]
    refine .createProgramme ?_ hwhole
    rw [hwhole]
    exact hread
  | @updateProgramme id p hvalid hhas hfree =>
    obtain ⟨whole, hread, hwhole, -⟩ :=
      answers_programme (s := ⟨_, kept, isOpen⟩) hopen h.integrity hf (Table.find?_put_self hhas)
    have hshown : Response.shown ({ p with id := id } : Programme) = .shown whole.programme :=
      congrArg _ hwhole.symm
    rw [hshown]
    exact .updateProgramme hread hwhole
  | @replacePieces id pieceIds shown hhas hfree hpieces hshown =>
    have hrow := programme_of_withPieces hshown
    obtain ⟨whole, hread, -, hrun, hentries⟩ :=
      answers_programme (s := ⟨_, kept, isOpen⟩) hopen h.integrity hf hrow
    obtain rfl : shown = whole := Except.ok.inj (congrArg Prod.fst (hshown.symm.trans hrun))
    refine .replacePieces hread hrow (hentries.trans ?_)
    rw [Catalogue.slotsOf_replacedSlots_self, Catalogue.map_slotsFor]
  | deleteProgramme hhas hfree => exact readBack_delete .programme _ hopen Table.has_erase_self
  | @createEvent command details vs new made t hvenue htitle hrefers hnew hmade =>
    have hrow := hi.events.find?_insert? hnew
    obtain ⟨rfl, -⟩ := Table.new_of_insert? hnew
    obtain rfl := hvenue.details_eq
    obtain ⟨shown, hread, rfl⟩ := answers_event (s := ⟨_, kept, isOpen⟩) hopen h hf hrow hmade
    have hevent := Except.ok.inj (hmade.symm.trans (EventRow.event_ofEvent _ _))
    refine .createEvent ?_ hevent
    rw [hevent]
    exact hread
  | @updateEvent id command row details vs made shown hrow hdraft hvenue htitle hrefers hmade hshown =>
    obtain ⟨old, hold⟩ := (hsound.events row (Table.mem_of_find? hrow)).readable.event
    obtain rfl := hvenue.details_eq
    obtain rfl := Except.ok.inj (hmade.symm.trans (EventRow.event_edited hold _))
    have hfind : (db.events.put (row.edited now (command.resolvedDetails db))).find? id = some _ :=
      Table.find?_put_of_id hrow rfl
    exact .updateEvent (answers_withProgramme (s := ⟨_, kept, isOpen⟩) hopen hfind hmade hshown) hrow
      hold (event_of_withProgramme hshown)
  | @updateNotes id notes row made hrow hmade =>
    obtain ⟨old, hold⟩ := (hsound.events row (Table.mem_of_find? hrow)).readable.event
    obtain ⟨shown, hread, rfl⟩ :=
      exists_answers_put (s := ⟨_, kept, isOpen⟩) later hopen h hf hrow rfl rfl hmade
    have hevent := hmade.symm.trans (EventRow.event_annotated hold notes)
    exact .updateNotes hread hrow hold (Except.ok.inj hevent)
  | draft hrow hmade => exact readBack_moving .draft hopen hsound h hf hrow hmade rfl
  | archive hrow hmade => exact readBack_moving .archived hopen hsound h hf hrow hmade rfl
  | publish hrow htitle hcomplete hpieced hmade =>
    exact readBack_moving .published hopen hsound h hf hrow hmade rfl
  | deleteEvent hrow hdeletable => exact readBack_delete .event _ hopen Table.has_erase_self
  | @updateBiography name content variant hvariant =>
    have hget : (db.biographies.set (some content) variant).get? variant = some content := by
      rw [Biographies.get?_set, if_pos rfl]
    exact .updateBiography hvariant (answersBiography hopen hvariant hget)

end Effects

/-! ## Requests -/

/-- **What is written is read back**, whatever has reached the service before.  A request of a writing method
that succeeds has an order, and what its response shows is what the requests that read next are shown. -/
theorem writes_read_back (visits : List (Instant × Visit)) (now later : Instant) (request : Request)
    (hmethod : Method.ofName? request.method ≠ some .get)
    (hsuccess : ((after visits).respond now request).1.isSuccess = true) :
    ∃ order, request.order = .ok order ∧
      ReadBack (after visits).catalogue ((after visits).respond now request).2 later order
        ((after visits).respond now request).1 := by
  have hserving := serving_after visits
  have hfilled : (after visits).catalogue.Filled :=
    after_induction Catalogue.Filled.fresh (fun h => h) Order.Effect.filled visits
  generalize after visits = s at *
  rcases hserving.answered now request with ⟨-, order, -, horder, -⟩ | ⟨hfailure, -⟩
  · have hwrites := isReading_eq_false_of_order hmethod horder
    obtain ⟨hopen, heffect⟩ := hserving.granted horder hwrites hsuccess
    refine ⟨order, horder, readBack_of_effect ?_ hserving.sound hfilled hwrites heffect⟩
    exact isOpen_respond.trans hopen
  · cases hsuccess.symm.trans hfailure

theorem writes_read_back_commissioning :
    Method.ofName? commissioning.method ≠ some .get ∧
    ((after []).respond .spring commissioning).1.isSuccess = true ∧
    ∃ d : Piece.Details, d.piece = ⟨1, "T", 1⟩ ∧
      ((after []).respond .spring commissioning).1 = .created (some "t") d.piece ∧
      ((after []).respond .spring commissioning).2.Answers .spring .piece 1 (.shown d) := by
  have hmethod : Method.ofName? commissioning.method ≠ some .get := by decide +kernel
  have hsuccess : ((after []).respond .spring commissioning).1.isSuccess = true := by decide +kernel
  have horder : commissioning.order = .ok (.piece (.create (commissioned 0 none))) :=
    eq_ok_of_toOption (by decide +kernel)
  obtain ⟨order, horder', hback⟩ := writes_read_back [] .spring .spring commissioning hmethod hsuccess
  obtain rfl := Except.ok.inj (horder.symm.trans horder')
  refine ⟨hmethod, hsuccess, ?_⟩
  generalize ((after []).respond .spring commissioning).1 = r at hback ⊢
  generalize ((after []).respond .spring commissioning).2 = s at hback ⊢
  cases hback with
  | @createPiece _ d hread hmade =>
    obtain ⟨p, count⟩ := d
    obtain rfl : p = ⟨1, "T", 1⟩ := hmade
    exact ⟨_, rfl, rfl, hread⟩
  | @moving _ _ status _ _ _ horder => cases status <;> cases horder
  | @delete _ kind _ _ horder => cases kind <;> cases horder

end Session

end Recital
