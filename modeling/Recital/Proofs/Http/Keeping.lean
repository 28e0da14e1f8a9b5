import Recital.Http.Service
import Recital.Proofs.Catalogue.Keeping
import Recital.Proofs.Desk.Resolution

/-!
# Every request keeps integrity

The rules of the use cases are not needed for it: integrity is kept by the statements that the use cases
are made of, on any catalogue that has it, even one that no use case would have left.

* `keeps_resolve` : whatever an intent asks for.
* `keeps_composerOrder`, … , `keeps_eventOrder` : the plan of every order.
* `integrity_respond` : a request keeps the integrity of the catalogue, whatever the answer.
-/

set_option autoImplicit false

namespace Recital

open Step Statement Catalogue

/-! ## Plans -/

namespace Plan

variable {α β : Type} {P : Catalogue → Prop}

theorem keeps_step {step : Step α} (h : step.Keeps P) : (Plan.step step).run.Keeps P :=
  h

theorem keeps_after {check : Except Fault Unit} {step : Step α} (h : step.Keeps P) :
    (Plan.after check step).run.Keeps P := by
  cases check with
  | ok u => exact h
  | error e => exact keeps_fail e

theorem keeps_map {plan : Plan α} {f : α → β} (h : plan.run.Keeps P) : (plan.map f).run.Keeps P := by
  cases plan with
  | ok step => exact Keeps.bind h fun _ => keeps_pure _
  | error e => exact keeps_fail e

end Plan

/-! ## Intents -/

theorem keeps_needs {α : Type} [Resolvable α] [LawfulResolvable α] {P : Catalogue → Prop} (row : α) :
    (Resolvable.needs row).Keeps P :=
  .of_meets fun _ hdb => LawfulResolvable.meets_needs.2 ⟨fun _ => hdb, fun _ => hdb⟩

theorem keeps_resolve {α : Type} [Resolvable α] [LawfulResolvable α] [LawfulStored α]
    (intent : Intent α) : (resolve intent).Keeps Integrity := by
  unfold resolve
  split
  · exact keeps_fetch _
  · exact (keeps_check _).bind fun _ => (keeps_needs _).bind fun _ => keeps_insert _
  · exact (keeps_check _).bind fun _ => (keeps_needs _).bind fun _ => Statement.keeps_update _
  · exact keeps_fail _

/-! ## Listings -/

namespace Listing

variable {P : Catalogue → Prop} {id : Int}

theorem keeps_programmeWithPieces : (programmeWithPieces id).Keeps P :=
  (keeps_fetch id).bind fun _ => (keeps_query _).bind fun _ => keeps_pure _

theorem keeps_withProgramme (e : Event) : (withProgramme e).Keeps P := by
  unfold withProgramme
  split
  · exact keeps_pure _
  · exact keeps_programmeWithPieces.bind fun _ => keeps_pure _

end Listing

/-! ## Use cases -/

namespace Desk

/-- What is guarded keeps integrity if it does so without the guard. -/
theorem keeps_guarded {α : Type} {kind : Kind} {dependency : Dependency} {id : Int} {blocked : Fault}
    {step : Step α} (h : step.Keeps Integrity) :
    (atomically do
      lock kind id
      requireFree dependency id blocked
      step).Keeps Integrity :=
  Keeps.atomically (keeps_lock.bind fun _ => keeps_requireFree.bind fun _ => h)

theorem keeps_requirePieces (pieceIds : List Int) : (requirePieces pieceIds).Keeps Integrity := by
  induction pieceIds with
  | nil => exact keeps_pure _
  | cons id ids ih => exact keeps_require.bind fun _ => ih

theorem keeps_resolveVenue (command : EventCommand) : (resolveVenue command).Keeps Integrity := by
  unfold resolveVenue
  split
  · exact keeps_pure _
  · exact (keeps_resolve _).bind fun _ => keeps_pure _

theorem keeps_requireReference (kind : Kind) (reference : Option Int) :
    (requireReference kind reference).Keeps Integrity := by
  cases reference with
  | none => exact keeps_pure _
  | some id => exact keeps_require

theorem keeps_requireReferences (e : Event) : (requireReferences e).Keeps Integrity :=
  (keeps_requireReference _ _).bind fun _ => keeps_requireReference _ _

theorem keeps_requirePieced (programmeId : Option Int) :
    (requirePieced programmeId).Keeps Integrity := by
  cases programmeId with
  | none => exact keeps_pure _
  | some id =>
    refine (keeps_fetch (α := Programme) id).bind fun _ => (keeps_query _).bind fun n => ?_
    split
    · exact keeps_fail _
    · exact keeps_pure _

variable {now : Instant}

theorem keeps_createEvent (command : EventCommand) :
    (createEvent now command).run.Keeps Integrity :=
  Keeps.atomically <| (keeps_resolveVenue command).bind fun _ => (keeps_check _).bind fun _ =>
    (keeps_requireReferences _).bind fun _ => keeps_insertEvent _

theorem keeps_updateEvent (id : Int) (command : EventCommand) :
    (updateEvent now id command).run.Keeps Integrity :=
  Keeps.atomically <| keeps_lock.bind fun _ => keeps_fetchEvent.bind fun _ =>
    (keeps_check _).bind fun _ => (keeps_resolveVenue command).bind fun _ =>
    (keeps_check _).bind fun _ => (keeps_requireReferences _).bind fun _ =>
    (Statement.keeps_updateEvent _).bind fun _ => Listing.keeps_withProgramme _

theorem keeps_publishEvent (id : Int) : (publishEvent now id).run.Keeps Integrity :=
  Keeps.atomically <| keeps_lock.bind fun _ => keeps_fetchEvent.bind fun _ =>
    (keeps_check _).bind fun _ => (keeps_requirePieced _).bind fun _ =>
    (keeps_check _).bind fun _ => keeps_setStatus _

end Desk

namespace Http

open Desk Plan

variable {now : Instant}

theorem keeps_composerOrder (order : ComposerOrder) : order.plan.run.Keeps Integrity := by
  cases order with
  | list => exact keeps_map (keeps_step (keeps_query _))
  | get id => exact keeps_map (keeps_step (keeps_query _))
  | create c => exact keeps_map (keeps_after (keeps_insert c))
  | update id c => exact keeps_map (keeps_after (Statement.keeps_update _))
  | delete id => exact keeps_map (keeps_step <| keeps_guarded keeps_deleteComposer)

theorem keeps_pieceOrder (order : PieceOrder) : order.plan.run.Keeps Integrity := by
  cases order with
  | list => exact keeps_map (keeps_step (keeps_query _))
  | get id => exact keeps_map (keeps_step (keeps_query _))
  | create command =>
    refine keeps_map (keeps_after (Keeps.atomically ?_))
    exact (keeps_resolve _).bind fun _ => keeps_resolve _
  | update id command =>
    refine keeps_map (keeps_after (Keeps.atomically ?_))
    exact keeps_lock.bind fun _ => (keeps_resolve _).bind fun _ => keeps_resolve _
  | delete id => exact keeps_map (keeps_step <| keeps_guarded keeps_deletePiece)

theorem keeps_venueOrder (order : VenueOrder) : order.plan.run.Keeps Integrity := by
  cases order with
  | list => exact keeps_map (keeps_step (keeps_query _))
  | get id => exact keeps_map (keeps_step (keeps_query _))
  | create venue => exact keeps_map (keeps_after (keeps_resolve venue))
  | update id venue => exact keeps_map (keeps_after (keeps_resolve _))
  | delete id => exact keeps_map (keeps_step <| keeps_guarded keeps_deleteVenue)

theorem keeps_programmeOrder (order : ProgrammeOrder) : order.plan.run.Keeps Integrity := by
  cases order with
  | list => exact keeps_map (keeps_step (keeps_query _))
  | get id => exact keeps_map (keeps_step Listing.keeps_programmeWithPieces)
  | details id => exact keeps_map (keeps_step (keeps_query _))
  | create p => exact keeps_map (keeps_after (keeps_insert p))
  | update id p => exact keeps_map (keeps_after (keeps_guarded (Statement.keeps_update _)))
  | replacePieces id pieceIds =>
    refine keeps_map (keeps_step (keeps_guarded ?_))
    exact (keeps_requirePieces _).bind fun _ => (keeps_replaceSlots pieceIds).bind fun _ =>
      Listing.keeps_programmeWithPieces
  | delete id => exact keeps_map (keeps_step <| keeps_guarded keeps_deleteProgramme)

theorem keeps_eventOrder (order : EventOrder) : (order.plan now).run.Keeps Integrity := by
  cases order with
  | list filter => exact keeps_map (keeps_step (keeps_query _))
  | listWithTimes filter => exact keeps_map (keeps_step (keeps_query _))
  | get id => exact keeps_map (keeps_step <| keeps_fetchEvent.bind fun _ => Listing.keeps_withProgramme _)
  | create command => exact keeps_map (keeps_createEvent command)
  | update id command => exact keeps_map (keeps_updateEvent id command)
  | updateNotes id notes => exact keeps_map (keeps_step (Statement.keeps_updateNotes notes))
  | draft id => exact keeps_map (keeps_step (keeps_setStatus _))
  | publish id => exact keeps_map (keeps_publishEvent id)
  | archive id => exact keeps_map (keeps_step (keeps_setStatus _))
  | delete id =>
    refine keeps_map (keeps_step (Keeps.atomically ?_))
    exact keeps_lock.bind fun _ => keeps_fetchEvent.bind fun _ => (keeps_check _).bind fun _ =>
      keeps_deleteEvent

/-- The plan of every order keeps integrity. -/
theorem keeps_plan {order : Order} {plan : Plan Response} (hplan : order.plan now = .inr plan) :
    plan.run.Keeps Integrity := by
  cases order with
  | health => cases hplan
  | composer order =>
    cases hplan
    exact keeps_composerOrder order
  | piece order =>
    cases hplan
    exact keeps_pieceOrder order
  | venue order =>
    cases hplan
    exact keeps_venueOrder order
  | programme order =>
    cases hplan
    exact keeps_programmeOrder order
  | event order =>
    cases hplan
    exact keeps_eventOrder order
  | showBiography variant =>
    cases hplan
    refine keeps_map ?_
    unfold showBiography
    cases Biography.Variant.parse variant with
    | error e => exact keeps_fail e
    | ok v => exact keeps_biography
  | updateBiography variant content =>
    cases hplan
    refine keeps_map ?_
    unfold updateBiography
    cases Biography.Variant.parse variant with
    | error e => exact keeps_fail e
    | ok v => exact keeps_putBiography _

/-- **A request keeps the integrity of the catalogue**, whatever the answer. -/
theorem integrity_respond (request : Request) {db : Catalogue} (h : db.Integrity) :
    (respond now request db).2.Integrity := by
  unfold respond
  cases request.order with
  | error refusal => exact h
  | ok order =>
    simp only
    unfold Order.respond
    cases hplan : order.plan now with
    | inl r => exact h
    | inr plan => exact keeps_plan hplan db h

end Http

end Recital
