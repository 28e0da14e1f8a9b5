import Recital.Proofs.Catalogue.Programmes
import Recital.Proofs.Catalogue.Timeless
import Recital.Proofs.Http.Site

/-!
# What is asked of the service is done

Where the conditions that its effect names are met, an order that puts something in place of what is stored has
that effect.

* `bind_run_of_ok`, `lock_run`, `update_run`, … : how a step ends whose conditions are met.
* `Resolved.run`, `VenueResolved.run` : intents are resolved as they can be.
* `Order.puts` : the orders that put something in place of what is stored.  `puts_of_order` : those of the
  requests whose method is to put.
* `Effect.respond` : such an order has each of its effects.
-/

set_option autoImplicit false

namespace Recital

/-! ## Steps -/

namespace Step

variable {α β : Type} {db db' : Catalogue} {step : Step α} {a : α}

/-- What comes after a step runs on what the step leaves. -/
theorem bind_run_of_ok {next : α → Step β} (h : step.run db = (.ok a, db')) :
    (step >>= next).run db = (next a).run db' := by
  rw [bind_run, h]

theorem atomically_run_of_ok (h : step.run db = (.ok a, db')) :
    (atomically step).run db = (.ok a, db') := by
  have hstep : step db = (.ok a, db') := h
  simp only [run, atomically, hstep]

/-- What a step must give and leave is what it gives and leaves. -/
theorem Meets.run_eq (h : step.Meets db (fun b left => b = a ∧ left = db') fun _ _ => False) :
    step.run db = (.ok a, db') := by
  obtain ⟨_, _, hrun, rfl, rfl⟩ := h.run_ok
  exact hrun

end Step

/-- A plan whose check passes ends as its step. -/
theorem Plan.after_run {α : Type} {db db' : Catalogue} {checked : Except Fault Unit} {step : Step α} {a : α}
    (h : checked = .ok ()) (hrun : step.run db = (.ok a, db')) :
    (Plan.after checked step).run.run db = (.ok a, db') := by
  rw [h]
  exact hrun

theorem valid_ok {rule : Except Violation Unit} (h : rule = .ok ()) : valid rule = .ok () := by
  rw [h]
  rfl

theorem Event.mutable_ok {e : Event} (h : e.status = .draft) : e.mutable = .ok () := by
  rw [Event.mutable, h]

theorem Event.validate_ok {e : Event} (h : Text.isBlank e.title = false) : e.validate = .ok () := by
  simp only [Event.validate, firstBlank, h, Bool.false_eq_true, if_false]

theorem ensure_ok {α : Type} {intent : Intent α} {expected : Operation}
    (hop : intent.operation = expected) (h : expected ≠ .unsupported) : intent.ensure expected = .ok () := by
  rw [Intent.ensure, if_neg (hop ▸ h), if_pos hop]

/-! ## Statements -/

namespace Statement

open Step

variable {db : Catalogue} {kind : Kind} {id : Int}

theorem lock_run (h : db.has kind id = true) : (lock kind id).run db = (.ok (), db) := by
  rw [lock, query_run, if_pos h]

theorem require_run (h : db.has kind id = true) : (require kind id).run db = (.ok (), db) := by
  have hexists : (exists? kind id).run db = (.ok true, db) := by rw [exists?, query_run, h]
  rw [require, bind_run_of_ok hexists]
  rfl

theorem requireFree_run {dependency : Dependency} {blocked : Fault}
    (h : dependency.count db id = 0) :
    (requireFree dependency id blocked).run db = (.ok (), db) := by
  have hcount : (count dependency id).run db = (.ok 0, db) := by rw [count, query_run, h]
  rw [requireFree, bind_run_of_ok hcount]
  rfl

section Rows

variable {α : Type} [Stored α] {row new : α} {t : Table α}

theorem fetch_run (h : (Stored.table db).find? id = some row) :
    (fetch id : Step α).run db = (.ok row, db) := by
  simp only [fetch, query_run, h]

theorem insert_run (hrefers : Stored.refers db row = true)
    (hnew : (Stored.table db).insert? row = some (new, t)) :
    (insert row).run db = (.ok new, Stored.setTable t db) := by
  refine Meets.run_eq <| meets_insert.2
    ⟨fun _ => ⟨fun new' t' hnew' => ?_, fun hnone => ?_⟩, fun hno => ?_⟩
  · cases hnew.symm.trans hnew'
    exact ⟨rfl, rfl⟩
  · cases hnew.symm.trans hnone
  · cases hrefers.symm.trans hno

theorem update_run (hhas : (Stored.table (α := α) db).has (Keyed.id row) = true)
    (hrefers : Stored.refers db row = true) :
    (update row).run db = (.ok row, Stored.setTable ((Stored.table db).put row) db) := by
  refine Meets.run_eq (meets_update.2 ⟨fun _ => ⟨fun _ => ⟨rfl, rfl⟩, fun hno => ?_⟩, fun hno => ?_⟩)
  · cases hrefers.symm.trans hno
  · cases hhas.symm.trans hno

end Rows

section Events

variable {now : Instant} {row new : EventRow} {e made : Event}

theorem fetchEvent_run (hrow : db.events.find? id = some row) (he : row.event = .ok e) :
    (fetchEvent id).run db = (.ok e, db) := by
  have hfetch : (fetch id : Step EventRow).run db = (.ok row, db) := fetch_run hrow
  rw [fetchEvent, bind_run_of_ok hfetch, check_run, he]

theorem changeEvent_run {change : Catalogue → EventRow → Except Fault EventRow}
    (hrow : db.events.find? id = some row) (hnew : change db row = .ok new) (he : new.event = .ok e) :
    (changeEvent id change).run db = (.ok e, { db with events := db.events.put new }) := by
  refine Meets.run_eq (meets_changeEvent.2 ⟨fun row' hrow' => ?_, fun hnone => ?_⟩)
  · obtain rfl : row = row' := Option.some.inj (hrow.symm.trans hrow')
    refine ⟨fun new' hnew' => ?_, fun f hf => ?_⟩
    · obtain rfl : new = new' := Except.ok.inj (hnew.symm.trans hnew')
      refine ⟨fun e' he' => ⟨?_, rfl⟩, fun f hf => ?_⟩
      · exact Except.ok.inj (he'.symm.trans he)
      · cases he.symm.trans hf
    · cases hnew.symm.trans hf
  · cases hrow.symm.trans hnone

theorem updateEvent_run (hrow : db.events.find? e.id = some row)
    (hrefers : db.Refers (row.edited now e.details))
    (hmade : (row.edited now e.details).event = .ok made) : (updateEvent now e).run db =
      (.ok made, { db with events := db.events.put (row.edited now e.details) }) :=
  changeEvent_run hrow (if_pos (Catalogue.refers_stored.2 hrefers)) hmade

end Events

end Statement

/-! ## Intents -/

section Resolving

open Step Statement

variable {db : Catalogue}

/-- **What an intent can stand for is what it is resolved to.** -/
theorem Resolved.run {α : Type} [Resolvable α] [LawfulResolvable α] {intent : Intent α} {value : α}
    {t : Table α} (h : Resolved db intent value t) :
    (resolve intent).run db = (.ok value, Stored.setTable t db) := by
  unfold resolve
  have hneeds : Stored.refers db intent.data = true →
      (Resolvable.needs intent.data).run db = (.ok (), db) := by
    intro hrefers
    rw [needs_run, if_pos hrefers]
  cases h with
  | selected hop hrow =>
    rw [hop, LawfulResolvable.setTable_table]
    exact fetch_run hrow
  | created hop hvalid hrefers hnew =>
    have hcheck : (check (valid (Resolvable.validate intent.data))).run db = (.ok (), db) := by
      rw [check_run, valid_ok hvalid]
    simp only [hop]
    rw [bind_run_of_ok hcheck, bind_run_of_ok (hneeds hrefers), insert_run hrefers hnew]
  | updated hop hvalid hrefers hhas =>
    have hcheck : (check (valid (Resolvable.validate intent.data))).run db = (.ok (), db) := by
      rw [check_run, valid_ok hvalid]
    simp only [hop]
    rw [bind_run_of_ok hcheck, bind_run_of_ok (hneeds hrefers), update_run hhas hrefers]

theorem Desk.VenueResolved.run {command : EventCommand} {details : EventDetails} {t : Table Venue}
    (h : VenueResolved db command details t) :
    (resolveVenue command).run db = (.ok details, { db with venues := t }) := by
  unfold resolveVenue
  cases h with
  | given hnone =>
    rw [hnone]
    rfl
  | resolved hsome hvenue =>
    simp only [hsome]
    rw [bind_run_of_ok hvenue.run]
    rfl

end Resolving

namespace Http

open Step Statement Desk

/-- Whether an order puts something in place of what is stored. -/
def Order.puts : Order → Bool
  | .composer (.update _ _) => true
  | .piece (.update _ _) => true
  | .venue (.update _ _) => true
  | .programme (.update _ _) => true
  | .programme (.replacePieces _ _) => true
  | .event (.update _ _) => true
  | .event (.updateNotes _ _) => true
  | .event (.draft _) => true
  | .event (.publish _) => true
  | .event (.archive _) => true
  | .updateBiography _ _ => true
  | _ => false

variable {now : Instant} {db db' : Catalogue} {order : Order} {r : Response} {id : Int}

theorem Order.puts_of_isReading (h : order.isReading = true) : order.puts = false := by
  unfold Order.puts
  split <;> first | rfl | cases h

theorem Order.isReading_of_puts (h : order.puts = true) : order.isReading = false := by
  refine Bool.eq_false_iff.2 fun hreading => ?_
  cases (puts_of_isReading hreading).symm.trans h

theorem Order.puts_of_site {place : Parameter → Place} (h : order.site? = some (.put, place, id)) :
    order.puts = true := by
  unfold Order.site? at h
  split at h <;> first | rfl | cases h

/-- So does every order of a request whose method says so. -/
theorem puts_of_order {request : Request} (hmethod : Method.ofName? request.method = some .put)
    (h : request.order = .ok order) : order.puts = true := by
  obtain ⟨method, place, hmethod', -, hgives⟩ := gives_of_order h
  cases hmethod.symm.trans hmethod'
  cases hgives with
  | writes hsite _ => exact Order.puts_of_site hsite
  | tells _ => rfl

/-! ## Use cases -/

theorem updateComposer_run {c : Composer} (hvalid : c.validate = .ok ())
    (hhas : db.composers.has id = true) : (Desk.updateComposer id c).run.run db =
      (.ok { c with id := id }, { db with composers := db.composers.put { c with id := id } }) := by
  have hrun : (update ({ c with id := id } : Composer)).run db = _ := update_run hhas rfl
  exact Plan.after_run (valid_ok hvalid) hrun

theorem updatePiece_run {command : PieceCommand} {composer : Composer} {cs : Table Composer}
    (hop : command.piece.operation = .update) (hcomposer : Resolved db command.composer composer cs)
    (hvalid : command.piece.data.validate = .ok ()) (hhas : db.pieces.has id = true) :
    (Desk.updatePiece id command).run.run db =
      (.ok { command.piece.data with id := id, composerId := composer.id },
        { db with
          composers := cs
          pieces := db.pieces.put { command.piece.data with id := id, composerId := composer.id } }) := by
  have hpiece : Resolved { db with composers := cs }
      { command.piece with
        data := { command.piece.data with id := id, composerId := composer.id } } _ _ :=
    .updated hop hvalid hcomposer.has hhas
  have hlock : db.has .piece id = true := hhas
  refine Plan.after_run (ensure_ok hop nofun) (atomically_run_of_ok ?_)
  rw [bind_run_of_ok (lock_run hlock), bind_run_of_ok hcomposer.run]
  exact hpiece.run

theorem updateVenue_run {venue : Intent Venue} (hop : venue.operation = .update)
    (hvalid : venue.data.validate = .ok ()) (hhas : db.venues.has id = true) :
    (Desk.updateVenue id venue).run.run db =
      (.ok { venue.data with id := id },
        { db with venues := db.venues.put { venue.data with id := id } }) := by
  have hvenue : Resolved db { venue with data := { venue.data with id := id } } _ _ :=
    .updated hop hvalid rfl hhas
  exact Plan.after_run (ensure_ok hop nofun) hvenue.run

/-- What runs only where a row exists and nothing depends on it. -/
theorem guarded_run {α : Type} {kind : Kind} {dependency : Dependency} {blocked : Fault} {step : Step α}
    {a : α} (hhas : db.has kind id = true) (hcount : dependency.count db id = 0)
    (h : step.run db = (.ok a, db')) :
    (atomically do
      lock kind id
      requireFree dependency id blocked
      step).run db = (.ok a, db') := by
  refine atomically_run_of_ok ?_
  rw [bind_run_of_ok (lock_run hhas), bind_run_of_ok (requireFree_run hcount), h]

theorem updateProgramme_run {p : Programme} (hvalid : p.validate = .ok ())
    (hhas : db.programmes.has id = true) (hfree : ¬ db.Performed id) :
    (Desk.updateProgramme id p).run.run db =
      (.ok { p with id := id }, { db with programmes := db.programmes.put { p with id := id } }) := by
  have hcount := Dependency.programmePublishedEvents_eq_zero.2 hfree
  have hrun : (update ({ p with id := id } : Programme)).run db = _ := update_run hhas rfl
  exact Plan.after_run (valid_ok hvalid) (guarded_run hhas hcount hrun)

theorem requirePieces_run {pieceIds : List Int} (h : ∀ k ∈ pieceIds, db.pieces.has k = true) :
    (Desk.requirePieces pieceIds).run db = (.ok (), db) := by
  induction pieceIds with
  | nil => rfl
  | cons pieceId pieceIds ih =>
    have hfirst : db.has .piece pieceId = true := h pieceId (List.mem_cons_self ..)
    rw [Desk.requirePieces, bind_run_of_ok (require_run hfirst)]
    exact ih fun k hk => h k (List.mem_cons_of_mem _ hk)

theorem replaceSlots_run {pieceIds : List Int} (hhas : db.programmes.has id = true)
    (hpieces : ∀ k ∈ pieceIds, db.pieces.has k = true) :
    (replaceSlots id pieceIds).run db =
      (.ok (), { db with slots := db.replacedSlots id pieceIds }) :=
  Meets.run_eq ((meets_replaceSlots hhas hpieces).2 ⟨rfl, rfl⟩)

theorem replacePieces_run {pieceIds : List Int} {shown : Programme.WithPieces}
    (hhas : db.programmes.has id = true) (hfree : ¬ db.Performed id)
    (hpieces : ∀ k ∈ pieceIds, db.pieces.has k = true)
    (hshown : (Listing.programmeWithPieces id).run { db with slots := db.replacedSlots id pieceIds } =
      (.ok shown, { db with slots := db.replacedSlots id pieceIds })) :
    (Desk.replacePieces id pieceIds).run.run db =
      (.ok shown, { db with slots := db.replacedSlots id pieceIds }) := by
  refine guarded_run hhas (Dependency.programmePublishedEvents_eq_zero.2 hfree) ?_
  have hdistinct : ∀ k ∈ Desk.distinct pieceIds, db.pieces.has k = true :=
    fun k hk => hpieces k (Desk.mem_distinct.1 hk)
  rw [bind_run_of_ok (requirePieces_run hdistinct), bind_run_of_ok (replaceSlots_run hhas hpieces), hshown]

theorem requireReference_run {kind : Kind} {reference : Option Int}
    (h : db.refers kind reference = true) : (requireReference kind reference).run db = (.ok (), db) := by
  cases reference with
  | none => rfl
  | some id => exact require_run h

theorem requireReferences_run {e : Event} (hvenue : db.refers .venue e.venueId = true)
    (hprogramme : db.refers .programme e.programmeId = true) :
    (requireReferences e).run db = (.ok (), db) := by
  rw [requireReferences, bind_run_of_ok (requireReference_run hvenue), requireReference_run hprogramme]

theorem requirePieced_run {programmeId : Option Int} (hrefers : db.refers .programme programmeId = true)
    (hpieced : ∀ p, programmeId = some p → db.slotsOf p ≠ []) :
    (requirePieced programmeId).run db = (.ok (), db) := by
  cases programmeId with
  | none => rfl
  | some p =>
    obtain ⟨programme, hprogramme⟩ := Table.find?_of_has (Catalogue.refers_iff.1 hrefers p rfl)
    have hfetch : (fetch p : Step Programme).run db = (.ok programme, db) := fetch_run hprogramme
    have hcount : (count .programmePieces p).run db =
        (.ok (Dependency.programmePieces.count db p), db) := rfl
    have hsome : Dependency.programmePieces.count db p ≠ 0 :=
      fun hnone => hpieced p rfl (Dependency.programmePieces_eq_zero.1 hnone)
    rw [requirePieced, bind_run_of_ok hfetch, bind_run_of_ok hcount, if_neg hsome]
    rfl

theorem updateEvent_run {command : EventCommand} {row : EventRow} {details : EventDetails} {vs : Table Venue}
    {made : Event} {shown : Event.WithProgramme} (hread : db.Readable)
    (hrow : db.events.find? id = some row) (hdraft : row.status = .draft)
    (hvenue : VenueResolved db command details vs) (htitle : Text.isBlank details.title = false)
    (hrefers : { db with venues := vs }.Refers (row.edited now details))
    (hmade : (row.edited now details).event = .ok made)
    (hshown : (Listing.withProgramme made).run
        { db with venues := vs, events := db.events.put (row.edited now details) } =
      (.ok shown, { db with venues := vs, events := db.events.put (row.edited now details) })) :
    (Desk.updateEvent now id command).run.run db =
      (.ok shown, { db with venues := vs, events := db.events.put (row.edited now details) }) := by
  obtain ⟨e, he⟩ := (hread row (Table.mem_of_find? hrow)).event
  have hevent := EventRow.shownAs_of_event he
  have hid : e.id = id := hevent.id.trans (Table.id_of_find? hrow)
  have hmutable : (check e.mutable).run db = (.ok (), db) := by
    rw [check_run, Event.mutable_ok (hevent.status.trans hdraft)]
  have hlock : db.has .event id = true := Table.has_of_find? hrow
  have hvalid : (check (valid (e.apply details).validate)).run { db with venues := vs } =
      (.ok (), { db with venues := vs }) := by
    rw [check_run, valid_ok (Event.validate_ok htitle)]
  have hreferences : (requireReferences (e.apply details)).run { db with venues := vs } = _ :=
    requireReferences_run hrefers.1 hrefers.2
  have hupdate : (Statement.updateEvent now (e.apply details)).run { db with venues := vs } = _ :=
    Statement.updateEvent_run (hid ▸ hrow) hrefers hmade
  refine atomically_run_of_ok ?_
  rw [bind_run_of_ok (lock_run hlock), bind_run_of_ok (fetchEvent_run hrow he), bind_run_of_ok hmutable,
    bind_run_of_ok hvenue.run, bind_run_of_ok hvalid, bind_run_of_ok hreferences, bind_run_of_ok hupdate]
  exact hshown

/-- What a complete row shows may be published. -/
theorem publishable_of_complete {row : EventRow} {e : Event} (he : row.event = .ok e) (h : row.Complete) :
    e.publishable = .ok () := by
  obtain ⟨d, hd, rfl⟩ := EventRow.event_eq_ok_iff.1 he
  have hdate : d.isNone = false := by
    obtain ⟨s, hs⟩ := Option.isSome_iff_exists.1 h.date
    rw [hs, storedDate] at hd
    cases hi : storedInstant s with
    | error f =>
      rw [hi] at hd
      cases hd
    | ok i =>
      rw [hi] at hd
      cases hd
      rfl
  obtain ⟨link, hlink, hnotBlank⟩ := h.ticketLink
  obtain ⟨venue, hvenue⟩ := h.venue
  obtain ⟨programme, hprogramme⟩ := h.programme
  simp only [Event.publishable, hdate, hlink, hnotBlank, hvenue, hprogramme, Option.map_some,
    Option.getD_some, Option.isNone_some, Bool.false_eq_true, if_false]

theorem publishEvent_run {row : EventRow} {made : Event} (hsound : db.Sound)
    (hrow : db.events.find? id = some row) (htitle : Text.isBlank row.title = false)
    (hcomplete : row.Complete) (hpieced : ∀ p, row.programmeId = some p → db.slotsOf p ≠ [])
    (hmade : (row.moved now .published).event = .ok made) :
    (Desk.publishEvent now id).run.run db =
      (.ok made, { db with events := db.events.put (row.moved now .published) }) := by
  have hmem := Table.mem_of_find? hrow
  obtain ⟨e, he⟩ := (hsound.events row hmem).readable.event
  have hlock : db.has .event id = true := Table.has_of_find? hrow
  have hevent := EventRow.shownAs_of_event he
  have hvalid : (check (valid e.validate)).run db = (.ok (), db) := by
    rw [check_run, valid_ok (Event.validate_ok (hevent.title ▸ htitle))]
  have hpieces : (requirePieced e.programmeId).run db = (.ok (), db) := by
    rw [hevent.programmeId]
    exact requirePieced_run (hsound.integrity.eventRefers row hmem).2 hpieced
  have hpublishable : (check (e.publishable.mapError .notPublishable)).run db = (.ok (), db) := by
    rw [check_run, publishable_of_complete he hcomplete]
    rfl
  have hmoved : (setStatus now id .published).run db = _ := changeEvent_run hrow rfl hmade
  refine atomically_run_of_ok ?_
  rw [bind_run_of_ok (lock_run hlock), bind_run_of_ok (fetchEvent_run hrow he), bind_run_of_ok hvalid,
    bind_run_of_ok hpieces, bind_run_of_ok hpublishable]
  exact hmoved

theorem updateBiography_run {name content : String} {variant : Biography.Variant}
    (hvariant : Biography.Variant.parse name = .ok variant) :
    (Desk.updateBiography name content).run.run db =
      (.ok ⟨content, variant⟩, { db with biographies := db.biographies.set (some content) variant }) := by
  rw [Desk.updateBiography, hvariant]
  rfl

/-! ## Orders -/

/-- What is shown is the value of the plan. -/
theorem respond_of_run {α : Type} [Showable α] {plan : Plan α} {a : α}
    (hplan : order.plan now = .inr (showing plan)) (hrun : plan.run.run db = (.ok a, db')) :
    order.respond now db = (.shown a, db') := by
  have hshown : (showing plan).run.run db = (.ok (.shown a), db') := by
    cases plan with
    | error e => cases hrun
    | ok step =>
      have hstep : step.run db = (.ok a, db') := hrun
      show (step >>= fun a => pure (Response.shown a)).run db = _
      rw [bind_run_of_ok hstep]
      rfl
  simp only [Order.respond, hplan, hshown, answer]

/-- **An order that puts something in place of what is stored has each of its effects**, on a sound
catalogue. -/
theorem Order.Effect.respond (h : order.Effect now db r db') (hputs : order.puts = true)
    (hsound : db.Sound) : order.respond now db = (r, db') := by
  cases h with
  | reading hreading hsuccess => cases (puts_of_isReading hreading).symm.trans hputs
  | updateComposer hvalid hhas => exact respond_of_run rfl (updateComposer_run hvalid hhas)
  | updatePiece hop hcomposer hvalid hhas =>
    exact respond_of_run rfl (updatePiece_run hop hcomposer hvalid hhas)
  | updateVenue hop hvalid hhas => exact respond_of_run rfl (updateVenue_run hop hvalid hhas)
  | updateProgramme hvalid hhas hfree => exact respond_of_run rfl (updateProgramme_run hvalid hhas hfree)
  | replacePieces hhas hfree hpieces hshown =>
    exact respond_of_run rfl (replacePieces_run hhas hfree hpieces hshown)
  | updateEvent hrow hdraft hvenue htitle hrefers hmade hshown =>
    exact respond_of_run rfl
      (updateEvent_run hsound.readable hrow hdraft hvenue htitle hrefers hmade hshown)
  | @updateNotes id notes row made hrow hmade =>
    have hrun : (Desk.updateNotes now id notes).run.run db = _ := changeEvent_run hrow rfl hmade
    exact respond_of_run rfl hrun
  | @draft id row made hrow hmade =>
    have hrun : (Desk.draftEvent now id).run.run db = _ := changeEvent_run hrow rfl hmade
    exact respond_of_run rfl hrun
  | @archive id row made hrow hmade =>
    have hrun : (Desk.archiveEvent now id).run.run db = _ := changeEvent_run hrow rfl hmade
    exact respond_of_run rfl hrun
  | publish hrow htitle hcomplete hpieced hmade =>
    exact respond_of_run rfl (publishEvent_run hsound hrow htitle hcomplete hpieced hmade)
  | updateBiography hvariant => exact respond_of_run rfl (updateBiography_run hvariant)
  | _ => cases hputs

end Http

end Recital
