import Recital.Proofs.Desk.Refusals
import Recital.Proofs.Session.Run

/-!
# What an event must pass to be published

* `publication_gated` : after every run, publishing an event ends with the first of what keeps it from being
  published, or gives it its new status and changes nothing else.
-/

set_option autoImplicit false

namespace Recital.Session

/-- **An event is published unless it is not there or something keeps it from it**, whatever has reached the
service and whatever its status is.  The first of all that keeps it is the fault.  A published event has another
status and another time of its last change, and nothing else is different. -/
theorem publication_gated (visits : List (Instant × Visit)) (now : Instant) (id : Int) :
    match (after visits).catalogue.events.find? id with
    | none => (Desk.publishEvent now id).run.run (after visits).catalogue =
        (.error .notFound, (after visits).catalogue)
    | some row => ∃ e, row.event = .ok e ∧
        (Desk.publishEvent now id).run.run (after visits).catalogue =
          match (after visits).catalogue.obstacle? e with
          | some f => (.error f, (after visits).catalogue)
          | none => (.ok { e with status := .published },
              { (after visits).catalogue with
                events := (after visits).catalogue.events.put
                  { row with status := .published, updatedAt := now.stored } }) := by
  have hsound := (serving_after visits).sound
  generalize (after visits).catalogue = db at *
  cases hrow : db.events.find? id with
  | none => exact Desk.publishEvent_run_of_missing hrow
  | some row =>
    obtain ⟨e, he⟩ := (hsound.events row (Table.mem_of_find? hrow)).readable.event
    exact ⟨e, he, Desk.publishEvent_run_eq hsound hrow he⟩

/-- A programme without slots is found out before the parts that are missing. -/
example : Catalogue.fresh.obstacle? { title := "E", programmeId := some 1 } = some .programmeHasNoPieces := by
  decide

end Recital.Session
