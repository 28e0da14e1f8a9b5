import Recital.Http.Service
import Recital.Proofs.Catalogue.Timeless
import Recital.Proofs.Http.Effect

/-!
# Requests that write do not tell the time

* `Desk.timeless_createEvent`, … : the use cases, at any two moments.
* `Http.timeless_plan` : so does the plan of every order that does more than show something.
-/

set_option autoImplicit false

namespace Recital

open Step Statement

/-! ## Use cases -/

namespace Desk

variable {now now' : Instant}

/-- What is guarded does not tell the time if it does not without the guard. -/
theorem timeless_guarded {α : Type} {kind : Kind} {dependency : Dependency} {id : Int} {blocked : Fault}
    {step : Step α} (h : Timeless Eq step step) :
    Timeless Eq
      (atomically do
        lock kind id
        requireFree dependency id blocked
        step)
      (atomically do
        lock kind id
        requireFree dependency id blocked
        step) :=
  Timeless.atomically <| (timeless_lock _ _).andThen fun _ =>
    (timeless_requireFree _ _ _).andThen fun _ => h

theorem timeless_requirePieces (pieceIds : List Int) :
    Timeless Eq (requirePieces pieceIds) (requirePieces pieceIds) := by
  induction pieceIds with
  | nil => exact timeless_pure rfl
  | cons id ids ih => exact (timeless_require _ _).andThen fun _ => ih

theorem timeless_resolveVenue (command : EventCommand) :
    Timeless Eq (resolveVenue command) (resolveVenue command) := by
  unfold resolveVenue
  split
  · exact timeless_pure rfl
  · exact (timeless_resolve _).andThen fun _ => timeless_pure rfl

theorem timeless_requireReference (kind : Kind) (reference : Option Int) :
    Timeless Eq (requireReference kind reference) (requireReference kind reference) := by
  cases reference with
  | none => exact timeless_pure rfl
  | some id => exact timeless_require _ _

theorem timeless_requireReferences (e : Event) :
    Timeless Eq (requireReferences e) (requireReferences e) :=
  (timeless_requireReference _ _).andThen fun _ => timeless_requireReference _ _

theorem timeless_requirePieced (programmeId : Option Int) :
    Timeless Eq (requirePieced programmeId) (requirePieced programmeId) := by
  cases programmeId with
  | none => exact timeless_pure rfl
  | some id =>
    refine (timeless_fetch (α := Programme) id).andThen fun _ => (timeless_count _ _).andThen fun n => ?_
    split
    · exact timeless_fail _
    · exact timeless_pure rfl

theorem timeless_createEvent (now now' : Instant) (command : EventCommand) :
    Timeless Eq (createEvent now command).run (createEvent now' command).run :=
  Timeless.atomically <| (timeless_resolveVenue _).andThen fun _ => (timeless_check _).andThen fun _ =>
    (timeless_requireReferences _).andThen fun _ => timeless_insertEvent _

theorem timeless_updateEvent (id : Int) (command : EventCommand) :
    Timeless Eq (updateEvent now id command).run (updateEvent now' id command).run :=
  Timeless.atomically <| (timeless_lock _ _).andThen fun _ => (timeless_fetchEvent _).andThen fun _ =>
    (timeless_check _).andThen fun _ => (timeless_resolveVenue _).andThen fun _ =>
    (timeless_check _).andThen fun _ => (timeless_requireReferences _).andThen fun _ =>
    (Statement.timeless_updateEvent _).andThen fun _ => Listing.timeless_withProgramme _

theorem timeless_publishEvent (id : Int) :
    Timeless Eq (publishEvent now id).run (publishEvent now' id).run :=
  Timeless.atomically <| (timeless_lock _ _).andThen fun _ => (timeless_fetchEvent _).andThen fun _ =>
    (timeless_check _).andThen fun _ => (timeless_requirePieced _).andThen fun _ =>
    (timeless_check _).andThen fun _ => timeless_setStatus _ _

theorem timeless_deleteEvent (id : Int) :
    Timeless Eq (deleteEvent id).run (deleteEvent id).run :=
  Timeless.atomically <| (timeless_lock _ _).andThen fun _ => (timeless_fetchEvent _).andThen fun _ =>
    (timeless_check _).andThen fun _ => Statement.timeless_deleteEvent _

theorem timeless_updateBiography (name content : String) :
    Timeless Eq (updateBiography name content).run (updateBiography name content).run := by
  unfold updateBiography
  cases Biography.Variant.parse name with
  | error e => exact timeless_fail e
  | ok variant => exact timeless_putBiography _

end Desk

/-! ## Orders -/

namespace Http

open Desk Plan

variable {now now' : Instant}

theorem timeless_composerOrder (order : ComposerOrder) :
    Timeless Eq order.plan.run order.plan.run := by
  cases order with
  | list => exact timeless_map (timeless_step Listing.timeless_allDetails)
  | get id => exact timeless_map (timeless_step (Listing.timeless_detailsOf id))
  | create c => exact timeless_map (timeless_after fun _ => timeless_insert c)
  | update id c => exact timeless_map (timeless_after fun _ => timeless_update _)
  | delete id => exact timeless_map (timeless_step (timeless_guarded (timeless_deleteComposer id)))

theorem timeless_pieceOrder (order : PieceOrder) : Timeless Eq order.plan.run order.plan.run := by
  cases order with
  | list => exact timeless_map (timeless_step Listing.timeless_allDetails)
  | get id => exact timeless_map (timeless_step (Listing.timeless_detailsOf id))
  | create command =>
    refine timeless_map (timeless_after fun _ => Timeless.atomically ?_)
    exact (timeless_resolve _).andThen fun _ => timeless_resolve _
  | update id command =>
    refine timeless_map (timeless_after fun _ => Timeless.atomically ?_)
    exact (timeless_lock _ _).andThen fun _ => (timeless_resolve _).andThen fun _ => timeless_resolve _
  | delete id => exact timeless_map (timeless_step (timeless_guarded (timeless_deletePiece id)))

theorem timeless_venueOrder (order : VenueOrder) : Timeless Eq order.plan.run order.plan.run := by
  cases order with
  | list => exact timeless_map (timeless_step Listing.timeless_allDetails)
  | get id => exact timeless_map (timeless_step (Listing.timeless_detailsOf id))
  | create venue => exact timeless_map (timeless_after fun _ => timeless_resolve _)
  | update id venue => exact timeless_map (timeless_after fun _ => timeless_resolve _)
  | delete id => exact timeless_map (timeless_step (timeless_guarded (timeless_deleteVenue id)))

theorem timeless_programmeOrder (order : ProgrammeOrder) :
    Timeless Eq order.plan.run order.plan.run := by
  cases order with
  | list => exact timeless_map (timeless_step Listing.timeless_allDetails)
  | get id => exact timeless_map (timeless_step (Listing.timeless_programmeWithPieces id))
  | details id => exact timeless_map (timeless_step (Listing.timeless_detailsOf id))
  | create p => exact timeless_map (timeless_after fun _ => timeless_insert p)
  | update id p => exact timeless_map (timeless_after fun _ => timeless_guarded (timeless_update _))
  | replacePieces id pieceIds =>
    refine timeless_map (timeless_step (timeless_guarded ?_))
    exact (timeless_requirePieces _).andThen fun _ => (timeless_replaceSlots _ _).andThen fun _ =>
      Listing.timeless_programmeWithPieces _
  | delete id => exact timeless_map (timeless_step (timeless_guarded (timeless_deleteProgramme id)))

/-- Events that are listed are those around the moment; everything else is alike at any moment. -/
theorem timeless_eventOrder {order : EventOrder} (hwrites : (Order.event order).isReading = false) :
    Timeless Eq (order.plan now).run (order.plan now').run := by
  cases order with
  | list filter => cases hwrites
  | listWithTimes filter => cases hwrites
  | get id => cases hwrites
  | create command => exact timeless_map (timeless_createEvent now now' command)
  | update id command => exact timeless_map (timeless_updateEvent id command)
  | updateNotes id notes => exact timeless_map (timeless_step (timeless_updateNotes id notes))
  | draft id => exact timeless_map (timeless_step (timeless_setStatus id .draft))
  | publish id => exact timeless_map (timeless_publishEvent id)
  | archive id => exact timeless_map (timeless_step (timeless_setStatus id .archived))
  | delete id => exact timeless_map (timeless_deleteEvent id)

/-- **The plan of an order that writes does not tell the time.** -/
theorem timeless_plan (now' : Instant) {order : Order} (hwrites : order.isReading = false)
    {plan : Plan Response} (hplan : order.plan now = .inr plan) :
    ∃ plan', order.plan now' = .inr plan' ∧ Timeless Eq plan.run plan'.run := by
  cases order with
  | health => cases hplan
  | composer order =>
    cases hplan
    exact ⟨_, rfl, timeless_composerOrder order⟩
  | piece order =>
    cases hplan
    exact ⟨_, rfl, timeless_pieceOrder order⟩
  | venue order =>
    cases hplan
    exact ⟨_, rfl, timeless_venueOrder order⟩
  | programme order =>
    cases hplan
    exact ⟨_, rfl, timeless_programmeOrder order⟩
  | event order =>
    cases hplan
    exact ⟨_, rfl, timeless_eventOrder hwrites⟩
  | showBiography variant => cases hwrites
  | updateBiography variant content =>
    cases hplan
    exact ⟨_, rfl, timeless_map (timeless_updateBiography variant content)⟩

/-- **An order that writes has one response at any two moments**, on catalogues that are alike, and leaves
such catalogues. -/
theorem timeless_respond (now now' : Instant) {order : Order} (hwrites : order.isReading = false)
    {db db' : Catalogue} (h : db.Alike db') : (order.respond now db).1 = (order.respond now' db').1 ∧
      (order.respond now db).2.Alike (order.respond now' db').2 := by
  cases hplan : order.plan now with
  | inl r =>
    cases order with
    | health => cases hwrites
    | _ => cases hplan
  | inr plan =>
    obtain ⟨plan', hplan', htimeless⟩ := timeless_plan now' hwrites hplan
    obtain ⟨hends, hleft⟩ := htimeless db db' h
    simp only [Order.respond, hplan, hplan']
    refine ⟨?_, hleft⟩
    generalize (plan.run.run db).1 = result at hends
    generalize (plan'.run.run db').1 = result' at hends
    cases hends with
    | value hvalue => exact congrArg (fun r => answer (.ok r)) hvalue
    | fault e => rfl

end Http

end Recital
