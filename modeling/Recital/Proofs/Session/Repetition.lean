import Recital.Proofs.Http.Repetition
import Recital.Proofs.Session.Unread

/-!
# Requests that are sent again

* `Session.unstamped` : a session without the times of the last changes of events.
* `puts_idempotent` : after every run, a request that puts something in place of what is stored, makes nothing
  new and succeeds can be sent again.  It has the same response, and leaves the same but for these times.
-/

set_option autoImplicit false

namespace Recital.Session

open Http

/-- The session without the times of the last changes of events. -/
def unstamped (s : Session) : Session :=
  { s with catalogue := s.catalogue.unstamped }

/-- **A request that puts something in place of what is stored can be sent again**, whatever has reached the
service before.  Where it succeeds and makes nothing new, it has the same response at any later moment, and
leaves every row and every last id as they are, but for the times of the last changes of events. -/
theorem puts_idempotent (visits : List (Instant × Visit)) (now later : Instant) (request : Request)
    (order : Order) (r : Response) (s : Session)
    (hmethod : Method.ofName? request.method = some .put) (horder : request.order = .ok order)
    (hinserts : ∀ kind, order.inserts kind = false)
    (hfirst : (after visits).respond now request = (r, s)) (hsuccess : r.isSuccess = true) :
    ∃ s', s.respond later request = (r, s') ∧ s'.unstamped = s.unstamped := by
  have hserving := serving_after visits
  have hputs := puts_of_order hmethod horder
  have hwrites := Order.isReading_of_puts hputs
  generalize after visits = before at *
  have hdone : (before.respond now request).1.isSuccess = true := by
    rw [hfirst]
    exact hsuccess
  obtain ⟨hopen, heffect⟩ := hserving.granted horder hwrites hdone
  have hopen' : (before.respond now request).2.isOpen = true := isOpen_respond.trans hopen
  rw [hfirst] at heffect hopen'
  obtain ⟨db, hagain, hsame⟩ := heffect.again later hputs hinserts
  have hrespond := hagain.respond hputs (heffect.sound hserving.sound)
  refine ⟨{ s with catalogue := db }, ?_, ?_⟩
  · rw [respond, if_pos hopen']
    simp only [Http.respond, horder, hrespond, trim_eq_of_order horder hwrites]
  · exact congrArg (fun catalogue => { s with catalogue := catalogue }) hsame

/-- A request that renames a piece, and its composer with it. -/
def revising : Request :=
  .ofJson "PUT" "/pieces/1"
    ("\x7b\"piece\":\x7b\"operation\":\"UPDATE\",\"data\":\x7b\"title\":\"U\"\x7d\x7d," ++
      "\"composer\":\x7b\"operation\":\"UPDATE\"," ++
      "\"data\":\x7b\"id\":1,\"full_name\":\"C\",\"short_name\":\"D\"\x7d\x7d\x7d")

/-- The session in which there are both. -/
def commissionedOnce : Session :=
  after [(.spring, .request commissioning)]

theorem puts_idempotent_revising :
    Method.ofName? revising.method = some .put ∧
    revising.order = .ok (.piece (.update 1
      ⟨⟨.update, ⟨0, "U", 0⟩, none⟩, ⟨.update, ⟨1, "C", "D"⟩, none⟩⟩)) ∧
    (commissionedOnce.respond .spring revising).1.isSuccess = true ∧
    ∃ s', (commissionedOnce.respond .spring revising).2.respond .spring revising =
        ((commissionedOnce.respond .spring revising).1, s') ∧
      s'.unstamped = (commissionedOnce.respond .spring revising).2.unstamped := by
  have hmethod : Method.ofName? revising.method = some .put := by decide +kernel
  have horder : revising.order = .ok (.piece (.update 1
      ⟨⟨.update, ⟨0, "U", 0⟩, none⟩, ⟨.update, ⟨1, "C", "D"⟩, none⟩⟩)) :=
    eq_ok_of_toOption (by decide +kernel)
  have hsuccess : (commissionedOnce.respond .spring revising).1.isSuccess = true := by decide +kernel
  have hagain := puts_idempotent [(.spring, .request commissioning)] .spring .spring revising _ _ _
    hmethod horder (fun kind => by cases kind <;> rfl) (Prod.eta _).symm hsuccess
  exact ⟨hmethod, horder, hsuccess, hagain⟩

end Recital.Session
