import Recital.Proofs.Http.Frame
import Recital.Proofs.Session.Lifecycle

/-!
# What a request leaves alone

* `Session.request_framed` : after every run, a request that is answered with success changes no rows but
  those that its order names.
-/

set_option autoImplicit false

namespace Recital.Session

open Http (Method Order Request)

/-- **A request that is answered with success changes no rows but those that its order names**, whatever
has reached the service before.  The order is what the method and the path of the request give. -/
theorem request_framed (visits : List (Instant × Visit)) (now : Instant) (request : Request)
    (hsuccess : ((after visits).respond now request).1.isSuccess = true) :
    ∃ method place order, Method.ofName? request.method = some method ∧
      request.place? = some place ∧ request.order = .ok order ∧ Http.Gives method place order ∧
      order.Frame (after visits).catalogue ((after visits).respond now request).2.catalogue := by
  have hserving := serving_after visits
  generalize after visits = s at *
  rcases hserving.answered now request with ⟨-, order, r, horder, heffect⟩ | ⟨hfails, -⟩
  · obtain ⟨method, place, hmethod, hplace, hgives⟩ := Http.gives_of_order horder
    exact ⟨method, place, order, hmethod, hplace, horder, hgives,
      heffect.frame hserving.sound.integrity⟩
  · cases hfails.symm.trans hsuccess

/-- Requests that publish an event and archive it. -/
def farewell : List (Instant × Visit) :=
  premiere ++ [(.spring, .request archiving)]

/-- A request that deletes the venue of the event. -/
def demolishing : Request :=
  .ofJson "DELETE" "/venues/1" ""

theorem request_framed_demolishing :
    ((after farewell).respond .spring demolishing).1.isSuccess = true ∧
      demolishing.order = .ok (.venue (.delete 1)) ∧
      (Order.venue (.delete 1)).Frame (after farewell).catalogue
        ((after farewell).respond .spring demolishing).2.catalogue := by
  have hsuccess : ((after farewell).respond .spring demolishing).1.isSuccess = true := by
    decide +kernel
  have hasks : demolishing.Asks .delete (.member .venue) 1 :=
    ⟨by decide +kernel, ['1'], by decide +kernel, eq_ok_of_toOption (by decide +kernel)⟩
  have horder : demolishing.order = .ok (.venue (.delete 1)) := Http.order_of_asks_delete hasks
  obtain ⟨_, _, order, -, -, horder', -, hframe⟩ :=
    request_framed farewell .spring demolishing hsuccess
  obtain rfl : .venue (.delete 1) = order := Except.ok.inj (horder.symm.trans horder')
  exact ⟨hsuccess, horder, hframe⟩

end Recital.Session
