import Recital.Proofs.Desk.Intents
import Recital.Proofs.Session.UnitOfWork

/-!
# Intents are resolved as they ask

* `intents_resolved` : after any actions, every intent on a composer, a piece or a venue is honoured.
-/

set_option autoImplicit false

namespace Recital.Session

/-- **An intent gets what it asks for, or the first fault that keeps it from it**, whatever requests, calls and
interventions have led to the catalogue, in a unit of work or outside one.  A selection gives the row of the id, a
creation adds one row under an id that is free, an update changes the row of the id, and all that is left of a
failure is the fault.  What has been resolved is what is selected by its id next. -/
theorem intents_resolved (actions : List (Instant × Action))
    (hids : ∀ kind, (through actions).catalogue.lastId kind ≠ Text.maxInt64) :
    (∀ intent : Intent Composer, intent.Honoured (through actions).catalogue) ∧
    (∀ intent : Intent Piece, intent.Honoured (through actions).catalogue) ∧
    ∀ intent : Intent Venue, intent.Honoured (through actions).catalogue := by
  have hintegrity := (whole_through actions).seen
  refine ⟨fun intent => ?_, fun intent => ?_, fun intent => ?_⟩
  · exact intent.honoured hintegrity.composers (hids .composer)
  · exact intent.honoured hintegrity.pieces (hids .piece)
  · exact intent.honoured hintegrity.venues (hids .venue)

/-- A piece by a composer who is not there. -/
def orphan : Intent Piece :=
  ⟨.create, ⟨0, "U", 2⟩, none⟩

/-- The composer who is there, under other names. -/
def renamed : Intent Composer :=
  ⟨.update, ⟨1, "C", "D"⟩, none⟩

theorem intents_resolved_opening :
    (∀ kind, (through opening).catalogue.lastId kind ≠ Text.maxInt64) ∧
      (resolve orphan).run (through opening).catalogue = (.error .notFound, (through opening).catalogue) ∧
      (resolve renamed).run (through opening).catalogue =
        (.ok ⟨1, "C", "D"⟩, { (through opening).catalogue with composers := ⟨[⟨1, "C", "D"⟩], 1⟩ }) := by
  have hids : ∀ kind, (through opening).catalogue.lastId kind ≠ Text.maxInt64 := by
    intro kind
    cases kind <;> decide +kernel
  obtain ⟨hcomposers, hpieces, -⟩ := intents_resolved opening hids
  have hallowed : renamed.refusal? (through opening).catalogue = none := by decide +kernel
  obtain ⟨value, t, hleaves, hrun, -⟩ := (hcomposers renamed).resolved hallowed
  obtain ⟨rfl, -, rfl⟩ := hleaves.update rfl
  refine ⟨hids, (hpieces orphan).refused .notFound (by decide +kernel), hrun.trans ?_⟩
  exact Prod.ext rfl (by decide +kernel)

end Recital.Session
