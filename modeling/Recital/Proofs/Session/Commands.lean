import Recital.Proofs.Desk.Commands
import Recital.Proofs.Session.UnitOfWork

/-!
# Commands nest what they resolve

* `pieces_composed` : after any actions, every command about a piece is honoured.
* `events_scheduled` : after any actions but interventions, so is every command about an event.
-/

set_option autoImplicit false

namespace Recital.Session

open Desk

/-- **A piece is written together with its composer, or neither is**, whatever requests, calls and interventions have
led to the catalogue.  Another operation than the expected one comes first, then a piece that is not there, then
what keeps the composer from being resolved; once the composer is resolved, only a blank title can fail.  What is
written refers to the resolved composer, who is there. -/
theorem pieces_composed (actions : List (Instant × Action))
    (hids : ∀ kind, (through actions).catalogue.lastId kind ≠ Text.maxInt64) (command : PieceCommand) :
    command.Honoured (through actions).catalogue :=
  command.honoured (whole_through actions).seen hids

/-- A piece without a title, whose composer is to have other names. -/
def nameless : PieceCommand :=
  ⟨⟨.update, ⟨0, " ", 0⟩, none⟩, ⟨.update, ⟨1, "C", "D"⟩, none⟩⟩

theorem pieces_composed_opening :
    (∀ kind, (through opening).catalogue.lastId kind ≠ Text.maxInt64) ∧
      nameless.unresolved? (through opening).catalogue .update (some 1) = none ∧
      (updatePiece 1 nameless).run.run (through opening).catalogue =
        (.error (.invalidResource .pieceTitle), (through opening).catalogue) := by
  have hids : ∀ kind, (through opening).catalogue.lastId kind ≠ Text.maxInt64 := by
    intro kind
    cases kind <;> decide +kernel
  have hresolved : nameless.unresolved? (through opening).catalogue .update (some 1) = none := by
    decide +kernel
  obtain ⟨composer, composers, piece, -, -, hrun⟩ :=
    (pieces_composed opening hids nameless).update 1 hresolved
  have hblank : Fault.ofBlank nameless.piece.data.title .pieceTitle =
      some (.invalidResource .pieceTitle) := by decide +kernel
  rw [hblank] at hrun
  exact ⟨hids, hresolved, hrun⟩

/-- **An event is written together with its venue, or neither is**, whatever requests and calls have led to the
catalogue.  An event that is to be edited must be there and a draft; then comes what keeps the venue from being
resolved, then a blank title, then a venue or a programme that is not there.  A new event is a draft without notes,
and an edited one keeps its id, its status, its notes and the time at which it was made. -/
theorem events_scheduled (actions : List (Instant × Action))
    (hactions : ∀ action ∈ actions, action.2.isIntervention = false)
    (hids : ∀ kind, (through actions).catalogue.lastId kind ≠ Text.maxInt64) (now : Instant)
    (command : EventCommand) : command.Honoured (through actions).catalogue now :=
  command.honoured now (whole_through actions).seen (readable_through hactions) hids

/-- An event of a programme, at a new venue. -/
def staging (programmeId : Int) : EventCommand where
  event := { title := "E", programmeId := some programmeId }
  venue := some ⟨.create, ⟨0, "N", "F", "S"⟩, none⟩

/-- Its details, once the venue is there. -/
def staged (programmeId : Int) : EventDetails :=
  { title := "E", venueId := some 1, programmeId := some programmeId }

theorem leaves_staging {p : Int} {details : EventDetails} {venues : Table Venue}
    (h : (staging p).Leaves (through opening).catalogue details venues) :
    details = staged p ∧ venues = ⟨[⟨1, "N", "F", "S"⟩], 1⟩ := by
  obtain ⟨venue, hvenue, hdetails⟩ := h
  obtain ⟨hvalue, -, hvenues⟩ := hvenue.create rfl
  have hnew : venue = ⟨1, "N", "F", "S"⟩ := hvalue.trans (by decide +kernel)
  subst hnew
  exact ⟨hdetails, hvenues.trans (by decide +kernel)⟩

theorem events_scheduled_opening :
    (∀ action ∈ opening, action.2.isIntervention = false) ∧
      (∀ kind, (through opening).catalogue.lastId kind ≠ Text.maxInt64) ∧
      (createEvent .spring (staging 7)).run.run (through opening).catalogue =
        (.error .notFound, (through opening).catalogue) ∧
      ((createEvent .spring (staging 1)).run.run (through opening).catalogue).2.venues =
        ⟨[⟨1, "N", "F", "S"⟩], 1⟩ := by
  have hactions : ∀ action ∈ opening, action.2.isIntervention = false := by decide
  have hids : ∀ kind, (through opening).catalogue.lastId kind ≠ Text.maxInt64 := by
    intro kind
    cases kind <;> decide +kernel
  have hresolved : ∀ p ∈ [7, 1], (staging p).unresolved? (through opening).catalogue = none := by
    decide +kernel
  have hrefusal : ∀ p ∈ [(7, some Fault.notFound), (1, none)], (staged p.1).refusal?
      { (through opening).catalogue with venues := ⟨[⟨1, "N", "F", "S"⟩], 1⟩ } = p.2 := by
    decide +kernel
  refine ⟨hactions, hids, ?_, ?_⟩
  · obtain ⟨details, venues, hleaves, hrun⟩ :=
      (events_scheduled opening hactions hids .spring (staging 7)).create (hresolved 7 (by simp))
    obtain ⟨rfl, rfl⟩ := leaves_staging hleaves
    rwa [hrefusal (7, some .notFound) (by simp)] at hrun
  · obtain ⟨details, venues, hleaves, hrun⟩ :=
      (events_scheduled opening hactions hids .spring (staging 1)).create (hresolved 1 (by simp))
    obtain ⟨rfl, rfl⟩ := leaves_staging hleaves
    rw [hrefusal (1, none) (by simp)] at hrun
    rw [hrun, Step.barring_none]

end Recital.Session
