import Recital.Proofs.Http.Editing
import Recital.Proofs.Http.Scheduling

/-!
# How requests are served

* `meets_plan` : the plan of every order has its effect, or is refused.
* `Served` : a request is not understood, has its effect, or fails.  `served_respond` : every request on
  a readable catalogue is served so.
* `isSuccess_trim`, `Refusal.isSuccess_response`, … : what is answered with success.
-/

set_option autoImplicit false

namespace Recital.Http

open Step

variable {now : Instant} {db db' : Catalogue} {request : Request} {order : Order} {r : Response}

/-! ## Plans -/

/-- What only reads is shown. -/
theorem meets_showing {α : Type} [Showable α] {plan : Plan α} (hreading : order.isReading = true)
    (h : plan.run.Reads db) :
    (showing plan).run.Meets db (fun r db' => order.Effect now db r db') db.Refused := by
  refine Plan.meets_map.2 (h.mono ?_ ?_)
  · rintro a db' rfl
    exact .reading hreading rfl
  · rintro e db' ⟨rfl, he⟩
    exact .rule he

theorem meets_composerOrder {order : ComposerOrder} :
    order.plan.run.Meets db (fun r db' => Order.Effect now db (.composer order) r db')
      db.Refused := by
  cases order with
  | list => exact meets_showing rfl Listing.reads_allDetails
  | get id => exact meets_showing rfl Listing.reads_detailsOf
  | create c => exact Plan.meets_map.2 meets_createComposer
  | update id c => exact Plan.meets_map.2 meets_updateComposer
  | delete id => exact Plan.meets_map.2 meets_deleteComposer

theorem meets_pieceOrder {order : PieceOrder} :
    order.plan.run.Meets db (fun r db' => Order.Effect now db (.piece order) r db')
      db.Refused := by
  cases order with
  | list => exact meets_showing rfl Listing.reads_allDetails
  | get id => exact meets_showing rfl Listing.reads_detailsOf
  | create command => exact Plan.meets_map.2 meets_createPiece
  | update id command => exact Plan.meets_map.2 meets_updatePiece
  | delete id => exact Plan.meets_map.2 meets_deletePiece

theorem meets_venueOrder {order : VenueOrder} :
    order.plan.run.Meets db (fun r db' => Order.Effect now db (.venue order) r db')
      db.Refused := by
  cases order with
  | list => exact meets_showing rfl Listing.reads_allDetails
  | get id => exact meets_showing rfl Listing.reads_detailsOf
  | create venue => exact Plan.meets_map.2 meets_createVenue
  | update id venue => exact Plan.meets_map.2 meets_updateVenue
  | delete id => exact Plan.meets_map.2 meets_deleteVenue

theorem meets_programmeOrder {order : ProgrammeOrder} :
    order.plan.run.Meets db (fun r db' => Order.Effect now db (.programme order) r db')
      db.Refused := by
  cases order with
  | list => exact meets_showing rfl Listing.reads_allDetails
  | get id => exact meets_showing rfl Listing.reads_programmeWithPieces
  | details id => exact meets_showing rfl Listing.reads_detailsOf
  | create p => exact Plan.meets_map.2 meets_createProgramme
  | update id p => exact Plan.meets_map.2 meets_updateProgramme
  | replacePieces id pieceIds => exact Plan.meets_map.2 meets_replacePieces
  | delete id => exact Plan.meets_map.2 meets_deleteProgramme

theorem meets_eventOrder (h : db.Readable) {order : EventOrder} :
    (order.plan now).run.Meets db (fun r db' => Order.Effect now db (.event order) r db')
      db.Refused := by
  cases order with
  | list filter => exact meets_showing rfl (Listing.reads_listEvents h)
  | listWithTimes filter => exact meets_showing rfl (Listing.reads_listEventsWithTimes h)
  | get id => exact meets_showing rfl (Listing.reads_eventWithProgramme h)
  | create command => exact Plan.meets_map.2 meets_createEvent
  | update id command => exact Plan.meets_map.2 (meets_updateEvent h)
  | updateNotes id notes => exact Plan.meets_map.2 (meets_updateNotes h)
  | draft id => exact Plan.meets_map.2 (meets_draftEvent h)
  | publish id => exact Plan.meets_map.2 (meets_publishEvent h)
  | archive id => exact Plan.meets_map.2 (meets_archiveEvent h)
  | delete id => exact Plan.meets_map.2 (meets_deleteEvent h)

/-- The plan of an order has its effect, or is refused. -/
theorem meets_plan (h : db.Readable) {plan : Plan Response} (hplan : order.plan now = .inr plan) :
    plan.run.Meets db (fun r db' => order.Effect now db r db') db.Refused := by
  cases order with
  | health => cases hplan
  | composer order =>
    cases hplan
    exact meets_composerOrder
  | piece order =>
    cases hplan
    exact meets_pieceOrder
  | venue order =>
    cases hplan
    exact meets_venueOrder
  | programme order =>
    cases hplan
    exact meets_programmeOrder
  | event order =>
    cases hplan
    exact meets_eventOrder h
  | showBiography variant =>
    cases hplan
    exact meets_showing rfl reads_showBiography
  | updateBiography variant content =>
    cases hplan
    exact Plan.meets_map.2 meets_updateBiography

/-! ## Requests -/

/-- The ways in which a request is served. -/
inductive Served (now : Instant) (request : Request) (db : Catalogue) :
    Response → Catalogue → Prop where
  | refused {refusal : Refusal} (horder : request.order = .error refusal) :
      Served now request db (request.trim refusal.response) db
  | failed {order : Order} {e : Fault} (horder : request.order = .ok order)
      (hexcused : db.Excuses e) : Served now request db (request.trim (.ofFault e)) db
  | done {order : Order} {r : Response} {db' : Catalogue} (horder : request.order = .ok order)
      (heffect : order.Effect now db r db') : Served now request db (request.trim r) db'

/-- **Every request on a readable catalogue is refused, fails without a trace, or has the effect of its
order.** -/
theorem served_respond (h : db.Readable) :
    Served now request db (respond now request db).1 (respond now request db).2 := by
  unfold respond
  cases horder : request.order with
  | error refusal => exact .refused horder
  | ok order =>
    simp only
    unfold Order.respond
    cases hplan : order.plan now with
    | inl r =>
      cases order with
      | health =>
        cases hplan
        exact .done horder (.reading rfl rfl)
      | _ => cases hplan
    | inr plan =>
      have hmeets := meets_plan h hplan
      unfold Meets at hmeets
      simp only
      cases hrun : plan.run.run db with
      | mk result db' =>
        rw [hrun] at hmeets
        cases result with
        | ok r => exact .done horder hmeets
        | error e =>
          obtain ⟨rfl, hexcused⟩ := hmeets
          exact .failed horder hexcused

theorem status_trim : (request.trim r).status = r.status := by
  unfold Request.trim
  split <;> rfl

theorem isSuccess_trim : (request.trim r).isSuccess = r.isSuccess := by
  unfold Response.isSuccess
  rw [status_trim]

/-! ## Success -/

theorem Refusal.isSuccess_response (refusal : Refusal) : refusal.response.isSuccess = false := by
  cases refusal <;> rfl

theorem Response.isSuccess_ofFault (e : Fault) : (ofFault e).isSuccess = false := by
  cases e <;> rfl

/-- On a closed catalogue, nothing but the health of the service is answered with success. -/
theorem order_of_isSuccess_closed (h : (respondClosed now request).isSuccess = true) :
    request.order = .ok .health := by
  unfold respondClosed at h
  cases horder : request.order with
  | error refusal =>
    simp only [horder, isSuccess_trim, Refusal.isSuccess_response] at h
    cases h
  | ok order =>
    simp only [horder, isSuccess_trim] at h
    unfold Order.respondClosed at h
    cases hplan : order.plan now with
    | inl r =>
      cases order with
      | health => rfl
      | _ => cases hplan
    | inr plan =>
      simp only [hplan, Response.isSuccess_ofFault] at h
      cases h

end Recital.Http
