import Recital.Proofs.Http.Lifecycle
import Recital.Proofs.Session.Publication

/-!
# The life of an event

* `Session.Grants` : a request that asks for something of an id is answered with success.
* `ReferenceKept` : a reference of an event is lost only by an archived one, with what it names.
* `EventRow.Follows` : what a request may change in the row of an event that stays.
* `Session.event_follows` : after every run, every request changes no more than that, and removes an event
  only where it asks for it and the event is not published.
-/

set_option autoImplicit false

namespace Recital

open Http (Method Place Parameter Request EventBecomes)

/-- The request is answered with success, and asks by the method for the place of the id. -/
def Session.Grants (s : Session) (now : Instant) (request : Request) (method : Method)
    (place : Parameter → Place) (id : Int) : Prop :=
  (s.respond now request).1.isSuccess = true ∧ request.Asks method place id

/-- A reference of an event that is no draft stays as it is, unless what it names is removed; then the
event is archived, and has no such reference any more. -/
structure ReferenceKept (removed : Int → Prop) (status : Status) (old new : Option Int) : Prop where
  lost : ∀ id, old = some id → removed id → status = .archived ∧ new = none
  same : (∀ id, old = some id → ¬ removed id) → new = old

/-- What may change in the row of an event, where `granted` tells what has been asked for with success. -/
structure EventRow.Follows (granted : Method → (Parameter → Place) → Int → Prop)
    (row row' : EventRow) : Prop where
  status : row'.status ≠ row.status → granted .put (.eventStatus row'.status) row.id
  moved : ∀ status, granted .put (.eventStatus status) row.id → row'.status = status
  details : row.status ≠ .draft →
    row'.title = row.title ∧ row'.date = row.date ∧ row'.ticketLink = row.ticketLink
  venue : row.status ≠ .draft →
    ReferenceKept (granted .delete (.member .venue)) row.status row.venueId row'.venueId
  programme : row.status ≠ .draft →
    ReferenceKept (granted .delete (.member .programme)) row.status row.programmeId row'.programmeId
  notes : row'.notes ≠ row.notes → granted .put .eventNotes row.id
  createdAt : row'.createdAt = row.createdAt

variable {granted : Method → (Parameter → Place) → Int → Prop} {row row' : EventRow}

theorem ReferenceKept.refl {removed : Int → Prop} {status : Status} {reference : Option Int}
    (h : ∀ id, reference = some id → ¬ removed id) :
    ReferenceKept removed status reference reference :=
  ⟨fun id hid hremoved => absurd hremoved (h id hid), fun _ => rfl⟩

/-- Where nothing is granted, a row follows itself. -/
theorem EventRow.Follows.refl (h : ∀ method place id, ¬ granted method place id) :
    row.Follows granted row where
  status hne := absurd rfl hne
  moved _ hgranted := absurd hgranted (h _ _ _)
  details _ := ⟨rfl, rfl, rfl⟩
  venue _ := .refl fun id _ => h _ _ id
  programme _ := .refl fun id _ => h _ _ id
  notes hne := absurd rfl hne
  createdAt := rfl

theorem Status.eq_archived {status : Status} (hdraft : status ≠ .draft) (hs : status ≠ .published) :
    status = .archived := by
  cases status with
  | draft => exact absurd rfl hdraft
  | published => exact absurd rfl hs
  | archived => rfl

/-- What an order makes of a row follows what has been asked for, where that gives the order. -/
theorem Http.EventBecomes.follows {now : Instant} {order : Order}
    (h : EventBecomes now row order (some row'))
    (hsite : ∀ method place id, order.site? = some (method, place, id) → granted method place id)
    (hstatus : ∀ status id, granted .put (.eventStatus status) id → order = .event (.moving id status))
    (hdelete : ∀ kind id, granted .delete (.member kind) id → order = Request.deleteOrder kind id) :
    row.Follows granted row' := by
  cases h with
  | kept hother =>
    refine ⟨fun hne => absurd rfl hne, ?_, fun _ => ⟨rfl, rfl, rfl⟩, fun _ => .refl ?_,
      fun _ => .refl ?_, fun hne => absurd rfl hne, rfl⟩
    · intro status hgranted
      refine absurd ?_ hother
      rw [hstatus status row.id hgranted]
      cases status <;> rfl
    · intro id hid hgranted
      refine hother ?_
      rw [hdelete .venue id hgranted]
      exact hid
    · intro id hid hgranted
      refine hother ?_
      rw [hdelete .programme id hgranted]
      exact hid
  | edited horder hdraft =>
    refine ⟨fun hne => absurd rfl hne, ?_, fun hs => absurd hdraft hs, fun hs => absurd hdraft hs,
      fun hs => absurd hdraft hs, fun hne => absurd rfl hne, rfl⟩
    intro status hgranted
    have hmoving := horder.symm.trans (hstatus status row.id hgranted)
    cases status <;> cases hmoving
  | annotated horder =>
    subst horder
    refine ⟨fun hne => absurd rfl hne, ?_, fun _ => ⟨rfl, rfl, rfl⟩, fun _ => .refl ?_,
      fun _ => .refl ?_, fun _ => hsite _ _ _ rfl, rfl⟩
    · intro status hgranted
      have hmoving := hstatus status row.id hgranted
      cases status <;> cases hmoving
    · intro id _ hgranted
      cases hdelete .venue id hgranted
    · intro id _ hgranted
      cases hdelete .programme id hgranted
  | @moved status horder =>
    subst horder
    refine ⟨fun _ => hsite _ _ _ (site?_moving row.id status), ?_, fun _ => ⟨rfl, rfl, rfl⟩,
      fun _ => .refl ?_, fun _ => .refl ?_, fun hne => absurd rfl hne, rfl⟩
    · intro asked hgranted
      have hmoving := Order.event.inj (hstatus asked row.id hgranted)
      exact (EventOrder.moving_inj hmoving).2
    · intro id _ hgranted
      cases hdelete .venue id hgranted
    · intro id _ hgranted
      cases hdelete .programme id hgranted
  | @venueRemoved id horder hvenue hs =>
    subst horder
    refine ⟨fun hne => absurd rfl hne, ?_, fun _ => ⟨rfl, rfl, rfl⟩, fun hdraft => ⟨?_, ?_⟩,
      fun _ => .refl ?_, fun hne => absurd rfl hne, rfl⟩
    · intro status hgranted
      cases hstatus status row.id hgranted
    · intro _ _ _
      exact ⟨Status.eq_archived hdraft hs, rfl⟩
    · intro hnone
      exact absurd (hsite _ _ _ rfl) (hnone id hvenue)
    · intro programme _ hgranted
      cases hdelete .programme programme hgranted
  | @programmeRemoved id horder hprogramme hs =>
    subst horder
    refine ⟨fun hne => absurd rfl hne, ?_, fun _ => ⟨rfl, rfl, rfl⟩, fun _ => .refl ?_,
      fun hdraft => ⟨?_, ?_⟩, fun hne => absurd rfl hne, rfl⟩
    · intro status hgranted
      cases hstatus status row.id hgranted
    · intro venue _ hgranted
      cases hdelete .venue venue hgranted
    · intro _ _ _
      exact ⟨Status.eq_archived hdraft hs, rfl⟩
    · intro hnone
      exact absurd (hsite _ _ _ rfl) (hnone id hprogramme)

namespace Session

/-- **What a request may do to an event**, whatever has reached the service before.  An event that stays
changes its status only as the request asks, and its notes only if the request asks for that; when it was
made is never changed, and nor are the details of one that is no draft, but for a venue or a programme that
is deleted while the event is archived.  An event goes only if the request asks for it, and not while it is
published. -/
theorem event_follows (visits : List (Instant × Visit)) (now : Instant) (request : Request) (id : Int)
    (row : EventRow) (hrow : (after visits).catalogue.events.find? id = some row) :
    (∀ row', ((after visits).respond now request).2.catalogue.events.find? id = some row' →
      row.Follows ((after visits).Grants now request) row') ∧
    (((after visits).respond now request).2.catalogue.events.find? id = none →
      (after visits).Grants now request .delete (.member .event) id ∧ row.status ≠ .published) := by
  have hserving := serving_after visits
  generalize after visits = s at *
  rcases hserving.answered now request with ⟨hsuccess, order, r, horder, heffect⟩ | ⟨hfails, hsame⟩
  · have hbecomes := heffect.becomes hrow
    have hid : row.id = id := Table.id_of_find? hrow
    constructor
    · intro row' hrow'
      rw [hrow'] at hbecomes
      refine hbecomes.follows ?_ ?_ ?_
      · intro method place id hsite
        exact ⟨hsuccess, Http.asks_of_order horder hsite⟩
      · intro status id hgranted
        exact Except.ok.inj (horder.symm.trans (Http.order_of_asks_status hgranted.2))
      · intro kind id hgranted
        exact Except.ok.inj (horder.symm.trans (Http.order_of_asks_delete hgranted.2))
    · intro hgone
      rw [hgone] at hbecomes
      cases hbecomes with
      | removed hdelete hs =>
        subst hdelete hid
        exact ⟨⟨hsuccess, Http.asks_of_order horder rfl⟩, hs⟩
  · have hnone : ∀ method place id, ¬ s.Grants now request method place id := by
      intro method place id hgranted
      cases hfails.symm.trans hgranted.1
    rw [hsame, hrow]
    constructor
    · intro row' hrow'
      obtain rfl := Option.some.inj hrow'
      exact .refl hnone
    · intro hgone
      cases hgone

/-- A request that archives the event that has been published. -/
def archiving : Request :=
  .ofJson "PUT" "/events/1/archive" ""

theorem event_follows_archiving : (after premiere).catalogue.events.find? 1 = some premiered ∧
    ((after premiere).respond .spring archiving).2.catalogue.events.find? 1 =
      some { premiered with status := .archived } ∧
    premiered.Follows ((after premiere).Grants .spring archiving)
      { premiered with status := .archived } := by
  have hrow : (after premiere).catalogue.events.find? 1 = some premiered := by decide +kernel
  have hrow' : ((after premiere).respond .spring archiving).2.catalogue.events.find? 1 =
      some { premiered with status := .archived } := by decide +kernel
  have hfollows := (event_follows premiere .spring archiving 1 premiered hrow).1 _ hrow'
  exact ⟨hrow, hrow', hfollows⟩

end Session

end Recital
