import Recital.Proofs.Http.Fulfilment

/-!
# How use cases are refused

What is asked for and cannot be done has one fault, the first in the order in which it is looked for, and leaves
the catalogue as it was.

* `bind_run_of_error`, `atomically_run_of_error` : a step that fails, within others.
* `guarded_run_of_missing`, `guarded_run_of_blocked` : what is asked of a row that is not there, or that others
  depend on.
* `requirePieces_run_of_missing` : a list of pieces one of which is not there.
* `Event.missing?` : the first part that an event lacks for its publication.  `Catalogue.obstacle?` : whatever
  keeps it from being published.
* `publishEvent_run_eq` : how publishing ends.
-/

set_option autoImplicit false

namespace Recital

/-! ## Steps -/

namespace Step

variable {α β : Type} {db db' : Catalogue} {step : Step α} {f : Fault}

/-- Nothing comes after a step that fails. -/
theorem bind_run_of_error {next : α → Step β} (h : step.run db = (.error f, db')) :
    (step >>= next).run db = (.error f, db') := by
  rw [bind_run, h]

/-- A unit of work that fails has written nothing. -/
theorem atomically_run_of_error (h : (step.run db).1 = .error f) :
    (atomically step).run db = (.error f, db) := by
  cases hstep : step db with
  | mk result db' =>
    have hfault : result = .error f := by
      rw [run, hstep] at h
      exact h
    simp only [run, atomically, hstep, hfault]

end Step

open Step Statement

variable {db db' : Catalogue} {id : Int} {f : Fault}

/-! ## Rows that are not there, or that others depend on -/

namespace Statement

variable {kind : Kind}

theorem fetch_run_of_missing {α : Type} [Stored α] (h : (Stored.table (α := α) db).has id = false) :
    (fetch id : Step α).run db = (.error .notFound, db) := by
  simp only [fetch, query_run, Table.find?_eq_none_of_has h]

theorem update_run_of_missing {α : Type} [Stored α] {row : α}
    (h : (Stored.table (α := α) db).has (Keyed.id row) = false) :
    (update row).run db = (.error .notFound, db) := by
  simp only [update, Step.run, statement, h, Bool.false_eq_true, if_false]

theorem lock_run_of_missing (h : db.has kind id = false) :
    (lock kind id).run db = (.error .notFound, db) := by
  rw [lock, query_run, h]
  rfl

theorem require_run_of_missing (h : db.has kind id = false) :
    (require kind id).run db = (.error .notFound, db) := by
  have hexists : (exists? kind id).run db = (.ok false, db) := by rw [exists?, query_run, h]
  rw [require, bind_run_of_ok hexists]
  rfl

theorem requireFree_run_of_blocked {dependency : Dependency} {blocked : Fault}
    (h : dependency.count db id ≠ 0) :
    (requireFree dependency id blocked).run db = (.error blocked, db) := by
  have hcount : (count dependency id).run db = (.ok (dependency.count db id), db) := rfl
  rw [requireFree, bind_run_of_ok hcount, if_pos (Nat.pos_of_ne_zero h)]
  rfl

end Statement

section Guarded

variable {α : Type} {kind : Kind} {dependency : Dependency} {blocked : Fault} {step : Step α}

theorem guarded_run_of_missing (hhas : db.has kind id = false) :
    (atomically do
      lock kind id
      requireFree dependency id blocked
      step).run db = (.error .notFound, db) := by
  refine atomically_run_of_error ?_
  rw [bind_run_of_error (lock_run_of_missing hhas)]

theorem guarded_run_of_blocked (hhas : db.has kind id = true) (hcount : dependency.count db id ≠ 0) :
    (atomically do
      lock kind id
      requireFree dependency id blocked
      step).run db = (.error blocked, db) := by
  refine atomically_run_of_error ?_
  rw [bind_run_of_ok (lock_run hhas), bind_run_of_error (requireFree_run_of_blocked hcount)]

/-- What fails after its guard has written nothing. -/
theorem guarded_run_of_error (hhas : db.has kind id = true) (hcount : dependency.count db id = 0)
    (h : (step.run db).1 = .error f) :
    (atomically do
      lock kind id
      requireFree dependency id blocked
      step).run db = (.error f, db) := by
  refine atomically_run_of_error ?_
  rw [bind_run_of_ok (lock_run hhas), bind_run_of_ok (requireFree_run hcount), h]

end Guarded

/-! ## Pieces of a programme -/

namespace Desk

theorem requirePieces_run_of_missing {pieceIds : List Int}
    (h : ∃ k ∈ pieceIds, db.has .piece k = false) :
    (requirePieces pieceIds).run db = (.error .notFound, db) := by
  obtain ⟨k, hk, hmissing⟩ := h
  induction pieceIds with
  | nil => cases hk
  | cons pieceId pieceIds ih =>
    rw [requirePieces]
    cases hfirst : db.has .piece pieceId with
    | false => exact bind_run_of_error (require_run_of_missing hfirst)
    | true =>
      -- the missing piece is another one, further on
      have hne : k ≠ pieceId := by
        rintro rfl
        cases hfirst.symm.trans hmissing
      rw [bind_run_of_ok (require_run hfirst)]
      exact ih ((List.mem_cons.1 hk).resolve_left hne)

end Desk

/-! ## Publishing -/

/-- The first part that an event lacks for its publication: its date, a ticket link that is not blank, its
venue, its programme. -/
def Event.missing? (e : Event) : Option Violation :=
  match e.date, e.ticketLink.filter (fun link => !Text.isBlank link), e.venueId, e.programmeId with
  | none, _, _, _ => some .eventDate
  | some _, none, _, _ => some .eventTicketLink
  | some _, some _, none, _ => some .eventVenue
  | some _, some _, some _, none => some .eventProgramme
  | some _, some _, some _, some _ => none

theorem Event.publishable_eq (e : Event) : e.publishable =
    match e.missing? with
    | none => .ok ()
    | some violation => .error violation := by
  obtain ⟨id, title, date, ticketLink, venueId, programmeId, status, notes⟩ := e
  have hlink : (ticketLink.map Text.isBlank).getD true =
      (ticketLink.filter fun link => !Text.isBlank link).isNone := by
    cases ticketLink with
    | none => rfl
    | some link => cases hblank : Text.isBlank link <;> simp [hblank, Option.filter]
  simp only [publishable, missing?, hlink]
  generalize ticketLink.filter (fun link => !Text.isBlank link) = link
  cases date with
  | none => rfl
  | some _ => cases link with
    | none => rfl
    | some _ => cases venueId with
      | none => rfl
      | some _ => cases programmeId <;> rfl

namespace Catalogue

/-- What keeps an event from being published, whatever its status: first that its programme has no slots, then
the first part that it lacks. -/
def obstacle? (db : Catalogue) (e : Event) : Option Fault :=
  if e.programmeId.any fun p => db.slotsOf p = [] then some .programmeHasNoPieces
  else e.missing?.map .notPublishable

end Catalogue

namespace Desk

/-- A programme that is named exists; that it has slots is looked at. -/
theorem requirePieced_run_eq {programmeId : Option Int}
    (hrefers : db.refers .programme programmeId = true) : (requirePieced programmeId).run db =
      (if programmeId.any fun p => db.slotsOf p = [] then .error .programmeHasNoPieces else .ok (), db) := by
  cases programmeId with
  | none => rfl
  | some p =>
    simp only [Option.any_some, decide_eq_true_eq]
    by_cases hslots : db.slotsOf p = []
    · obtain ⟨programme, hprogramme⟩ := Table.find?_of_has (Catalogue.refers_iff.1 hrefers p rfl)
      have hfetch : (fetch p : Step Programme).run db = (.ok programme, db) := fetch_run hprogramme
      have hcount : (count .programmePieces p).run db = (.ok 0, db) := by
        rw [count, query_run, Dependency.programmePieces_eq_zero.2 hslots]
      rw [requirePieced, bind_run_of_ok hfetch, bind_run_of_ok hcount, if_pos hslots]
      rfl
    · have hpieced : ∀ k, some p = some k → db.slotsOf k ≠ [] := by
        intro k hk
        rw [← Option.some.inj hk]
        exact hslots
      rw [Http.requirePieced_run hrefers hpieced, if_neg hslots]

/-- **How publishing an event ends**: with what keeps it from being published, or with a new status. -/
theorem publishEvent_run_eq {now : Instant} {row : EventRow} {e : Event} (hsound : db.Sound)
    (hrow : db.events.find? id = some row) (he : row.event = .ok e) :
    (publishEvent now id).run.run db =
      match db.obstacle? e with
      | some f => (.error f, db)
      | none => (.ok { e with status := .published },
          { db with events := db.events.put (row.moved now .published) }) := by
  have hmem := Table.mem_of_find? hrow
  have hevent := EventRow.shownAs_of_event he
  have hlock : (lock .event id).run db = (.ok (), db) := lock_run (Table.has_of_find? hrow)
  have hfetch := fetchEvent_run hrow he
  have hvalid : (check (valid e.validate)).run db = (.ok (), db) := by
    rw [check_run, valid_ok (Event.validate_ok (hevent.title ▸ (hsound.events row hmem).title))]
  have hpieced := requirePieced_run_eq (hevent.programmeId ▸ (hsound.integrity.eventRefers row hmem).2)
  have hmoved : (setStatus now id .published).run db = _ :=
    changeEvent_run hrow rfl (EventRow.event_moved he .published)
  unfold Catalogue.obstacle?
  by_cases hslots : (e.programmeId.any fun p => db.slotsOf p = []) = true
  · rw [if_pos hslots] at hpieced ⊢
    refine atomically_run_of_error ?_
    rw [bind_run_of_ok hlock, bind_run_of_ok hfetch, bind_run_of_ok hvalid, bind_run_of_error hpieced]
  rw [if_neg hslots] at hpieced ⊢
  cases hmissing : e.missing? with
  | some violation =>
    have hcheck : (check (e.publishable.mapError .notPublishable)).run db =
        (.error (.notPublishable violation), db) := by
      rw [check_run, Event.publishable_eq, hmissing]
      rfl
    refine atomically_run_of_error ?_
    rw [bind_run_of_ok hlock, bind_run_of_ok hfetch, bind_run_of_ok hvalid, bind_run_of_ok hpieced,
      bind_run_of_error hcheck]
  | none =>
    have hcheck : (check (e.publishable.mapError .notPublishable)).run db = (.ok (), db) := by
      rw [check_run, Event.publishable_eq, hmissing]
      rfl
    refine atomically_run_of_ok ?_
    rw [bind_run_of_ok hlock, bind_run_of_ok hfetch, bind_run_of_ok hvalid, bind_run_of_ok hpieced,
      bind_run_of_ok hcheck]
    exact hmoved

theorem publishEvent_run_of_missing {now : Instant} (h : db.events.find? id = none) :
    (publishEvent now id).run.run db = (.error .notFound, db) := by
  have hlock : db.has .event id = false := Table.has_eq_false_of_find? h
  refine atomically_run_of_error ?_
  rw [bind_run_of_error (lock_run_of_missing hlock)]

end Desk

/-! ## Orders -/

theorem Plan.map_run_of_error {α β : Type} {plan : Plan α} {g : α → β} (h : plan.run.run db = (.error f, db')) :
    (plan.map g).run.run db = (.error f, db') := by
  cases plan with
  | error e =>
    cases h
    rfl
  | ok step => exact bind_run_of_error h

/-- What a plan cannot do is answered with its fault. -/
theorem Http.respond_of_plan_error {α : Type} {now : Instant} {order : Order} {plan : Plan α} {g : α → Response}
    (hplan : order.plan now = .inr (plan.map g)) (hrun : plan.run.run db = (.error f, db)) :
    order.respond now db = (.ofFault f, db) := by
  simp only [Order.respond, hplan, Plan.map_run_of_error hrun, answer]

end Recital
