import Recital.Proofs.Http.Unread
import Recital.Proofs.Session.Run

/-!
# Requests that differ in what the service does not look at

* `Serving.granted` : a request that writes, and is answered with success, has the effect of its order.
* `Value.at?` : the value under names of members within one another.
* `Order.idPath`, `Order.mark?` : where the response to an order shows the id of the entity that is changed,
  and the mark that it repeats.
* `unread_ignored` : after every run, two requests whose orders differ in what is not looked at have one
  response, and leave the same but for times of events.  What is shown has the id of the path, and the mark is
  that of the request.
-/

set_option autoImplicit false

namespace Recital

/-! ## Members of a body -/

namespace Json

/-- The value under names of members within one another. -/
def Value.at? : List String → Value → Option Value
  | [], v => some v
  | name :: names, .object members =>
    (members.find? fun member => member.1 = name).bind fun member => member.2.at? names
  | _, _ => none

end Json

namespace Http

open Listing

/-- The value under names of members of the body. -/
def Response.at? (names : List String) (r : Response) : Option Json.Value :=
  r.body.bind (Json.Value.at? names)

/-- Where the response to an order shows the id of the entity that is changed. -/
def Order.idPath : Order → List String
  | .programme (.replacePieces _ _) => ["programme", "id"]
  | .event (.update _ _) => ["event", "id"]
  | _ => ["id"]

/-- The mark that the response to an order repeats. -/
def Order.mark? : Order → Option String
  | .piece (.create command) => command.piece.tempId
  | .venue (.create intent) => intent.tempId
  | .event (.create command) => command.tempId
  | _ => none

variable {now : Instant} {db db' : Catalogue} {order : Order} {r : Response}

theorem at?_created {α : Type} [Showable α] (mark : Option String) (a : α) :
    (Response.created mark a).at? ["temp_id"] = mark.map .string := by
  cases mark <;> rfl

/-- What is shown of an event with its programme is the event. -/
theorem event_of_withProgramme {e : Event} {shown : Event.WithProgramme}
    (h : (withProgramme e).run db = (.ok shown, db')) : shown.event = e := by
  unfold withProgramme at h
  split at h
  · cases h
    rfl
  · rename_i id _
    rw [Step.bind_run] at h
    cases hrun : (programmeWithPieces id).run db with
    | mk r left =>
      rw [hrun] at h
      cases r with
      | ok programme =>
        cases h
        rfl
      | error f => cases h

/-- What is shown of a programme with its pieces is the programme of the id. -/
theorem programme_of_withPieces {id : Int} {shown : Programme.WithPieces}
    (h : (programmeWithPieces id).run db = (.ok shown, db')) :
    db.programmes.find? id = some shown.programme := by
  unfold programmeWithPieces at h
  have htable : Stored.table (α := Programme) db = db.programmes := rfl
  simp only [Step.bind_run, Statement.fetch, Step.query_run, htable] at h
  cases hrow : db.programmes.find? id with
  | none =>
    simp only [hrow] at h
    cases h
  | some programme =>
    simp only [hrow, piecesOf, Step.query_run, Step.pure_run] at h
    cases h
    rfl

/-- **What is changed is shown under its own id.** -/
theorem Order.Effect.at?_idPath (h : order.Effect now db r db') {place : Parameter → Place} {id : Int}
    (hsite : order.site? = some (.put, place, id)) : r.at? order.idPath = some (.int id) := by
  have hevent : ∀ {k : Int} {row new : EventRow} {made : Event}, db.events.find? k = some row →
      new.event = .ok made → new.id = row.id → made.id = k := by
    intro k row new made hrow hmade hid
    exact (EventRow.shownAs_of_event hmade).id.trans (hid.trans (Table.id_of_find? hrow))
  cases h with
  | reading hreading hsuccess => cases (site?_of_isReading hreading).symm.trans hsite
  | updateComposer hvalid hhas =>
    cases hsite
    rfl
  | updatePiece hop hcomposer hvalid hhas =>
    cases hsite
    rfl
  | updateVenue hop hvalid hhas =>
    cases hsite
    rfl
  | updateProgramme hvalid hhas hfree =>
    cases hsite
    rfl
  | replacePieces hhas hfree hpieces hshown =>
    cases hsite
    exact congrArg (fun id => some (Json.Value.int id))
      (Table.id_of_find? (programme_of_withPieces hshown))
  | updateEvent hrow hdraft hvenue htitle hrefers hmade hshown =>
    cases hsite
    refine congrArg (fun id => some (Json.Value.int id)) ?_
    rw [event_of_withProgramme hshown]
    exact hevent hrow hmade rfl
  | updateNotes hrow hmade =>
    cases hsite
    exact congrArg (fun id => some (Json.Value.int id)) (hevent hrow hmade rfl)
  | draft hrow hmade =>
    cases hsite
    exact congrArg (fun id => some (Json.Value.int id)) (hevent hrow hmade rfl)
  | archive hrow hmade =>
    cases hsite
    exact congrArg (fun id => some (Json.Value.int id)) (hevent hrow hmade rfl)
  | publish hrow htitle hcomplete hpieced hmade =>
    cases hsite
    exact congrArg (fun id => some (Json.Value.int id)) (hevent hrow hmade rfl)
  | _ => cases hsite

/-- **What is made is answered with the mark of its own intent.** -/
theorem Order.Effect.at?_mark (h : order.Effect now db r db') {kind : Kind}
    (hkind : order.makes? = some kind) : r.at? ["temp_id"] = order.mark?.map .string := by
  cases h with
  | reading hreading hsuccess => cases (makes?_of_isReading hreading).symm.trans hkind
  | createComposer hvalid hnew => exact at?_created (α := Composer) none _
  | createPiece hop hcomposer hvalid hnew => exact at?_created _ _
  | createVenue hop hvalid hnew => exact at?_created _ _
  | createProgramme hvalid hnew => exact at?_created none _
  | createEvent hvenue htitle hrefers hnew hmade => exact at?_created _ _
  | _ => cases hkind

end Http

/-! ## Requests -/

namespace Session

variable {s : Session} {now now' : Instant} {request request' : Http.Request}
  {order order' : Http.Order}

/-- **A request that writes, and is answered with success, has the effect of its order.** -/
theorem Serving.granted (h : s.Serving) (horder : request.order = .ok order)
    (hwrites : order.isReading = false) (hsuccess : (s.respond now request).1.isSuccess = true) :
    s.isOpen = true ∧ order.Effect now s.catalogue (s.respond now request).1
      (s.respond now request).2.catalogue := by
  cases hopen : s.isOpen with
  | false =>
    rw [response_of_closed hopen] at hsuccess
    cases horder.symm.trans (Http.order_of_isSuccess_closed hsuccess)
    cases hwrites
  | true =>
    refine ⟨rfl, ?_⟩
    have hserved : Http.Served now request s.catalogue _ _ := h.served hopen
    generalize (s.respond now request).1 = r at hserved hsuccess ⊢
    generalize (s.respond now request).2.catalogue = db at hserved ⊢
    cases hserved with
    | refused horder' => cases horder.symm.trans horder'
    | failed horder' hexcused =>
      rw [Http.isSuccess_trim, Http.Response.isSuccess_ofFault] at hsuccess
      cases hsuccess
    | done horder' heffect =>
      obtain rfl : order = _ := Except.ok.inj (horder.symm.trans horder')
      rw [Http.trim_eq_of_order horder hwrites]
      exact heffect

/-- On a readable catalogue, requests whose orders are alike have one response. -/
theorem respond_alike (now now' : Instant) (hread : s.catalogue.Readable)
    (horder : request.order = .ok order) (horder' : request'.order = .ok order') (h : order.Alike order') :
    (s.respond now request).1 = (s.respond now' request').1 ∧
      (s.respond now request).2.catalogue.Alike (s.respond now' request').2.catalogue := by
  have htrim := Http.trim_eq_of_order horder h.isReading_eq_false.1
  have htrim' := Http.trim_eq_of_order horder' h.isReading_eq_false.2
  unfold respond
  split
  · simp only [Http.respond, horder, horder', htrim, htrim']
    exact h.respond (.refl hread)
  · simp only [Http.respondClosed, horder, horder', htrim, htrim']
    exact ⟨h.respondClosed, .refl hread⟩

/-- **Nothing comes of what the service does not look at**, whatever has reached it before: two requests that
differ in nothing else have one response, be it a failure, and leave the same but for the times of events; at
one moment, all the same.  What an order changes is shown under the id of the path, and what it makes is
answered with the mark of its own intent. -/
theorem unread_ignored (visits : List (Instant × Visit)) (now now' : Instant)
    (request request' : Http.Request) (order order' : Http.Order) (horder : request.order = .ok order)
    (horder' : request'.order = .ok order') (h : order.Alike order') :
    ((after visits).respond now request).1 = ((after visits).respond now' request').1 ∧
    ((after visits).respond now request).2.catalogue.untimed =
      ((after visits).respond now' request').2.catalogue.untimed ∧
    (after visits).respond now request = (after visits).respond now request' ∧
    (((after visits).respond now request).1.isSuccess = true →
      (∀ place id, order.site? = some (.put, place, id) → request.Asks .put place id ∧
        ((after visits).respond now request).1.at? order.idPath = some (.int id)) ∧
      ∀ kind, order.makes? = some kind →
        ((after visits).respond now request).1.at? ["temp_id"] = order.mark?.map .string) := by
  have hserving := serving_after visits
  generalize after visits = s at *
  have hread := hserving.sound.readable
  obtain ⟨hresponse, hleft⟩ := respond_alike now now' hread horder horder' h
  refine ⟨hresponse, hleft.untimed_eq, ?_, fun hsuccess => ?_⟩
  · have htrim := Http.trim_eq_of_order horder h.isReading_eq_false.1
    have htrim' := Http.trim_eq_of_order horder' h.isReading_eq_false.2
    simp only [respond, Http.respond, Http.respondClosed, horder, horder', htrim, htrim',
      Http.Order.respond, Http.Order.respondClosed, h.plan_eq]
  · obtain ⟨-, heffect⟩ := hserving.granted horder h.isReading_eq_false.1 hsuccess
    exact ⟨fun place id hsite => ⟨Http.asks_of_order horder hsite, heffect.at?_idPath hsite⟩,
      fun kind hkind => heffect.at?_mark hkind⟩

/-- A piece and its composer, both new. -/
def commissioned (id : Int) (mark : Option String) : Desk.PieceCommand :=
  ⟨⟨.create, ⟨id, "T", id⟩, some "t"⟩, ⟨.create, ⟨0, "A", "B"⟩, mark⟩⟩

/-- A request for them that numbers the piece, and marks its composer. -/
def numbering : Http.Request :=
  .ofJson "POST" "/pieces"
    ("\x7b\"piece\":\x7b\"operation\":\"CREATE\",\"temp_id\":\"t\"," ++
      "\"data\":\x7b\"id\":7,\"title\":\"T\",\"composer_id\":7\x7d\x7d," ++
      "\"composer\":\x7b\"operation\":\"CREATE\",\"temp_id\":\"u\"," ++
      "\"data\":\x7b\"full_name\":\"A\",\"short_name\":\"B\"\x7d\x7d\x7d")

/-- A request for them that does not. -/
def commissioning : Http.Request :=
  .ofJson "POST" "/pieces"
    ("\x7b\"piece\":\x7b\"operation\":\"CREATE\",\"temp_id\":\"t\"," ++
      "\"data\":\x7b\"title\":\"T\"\x7d\x7d," ++
      "\"composer\":\x7b\"operation\":\"CREATE\"," ++
      "\"data\":\x7b\"full_name\":\"A\",\"short_name\":\"B\"\x7d\x7d\x7d")

theorem unread_ignored_numbering :
    numbering.order = .ok (.piece (.create (commissioned 7 (some "u")))) ∧
      commissioning.order = .ok (.piece (.create (commissioned 0 none))) ∧
      ((after []).respond .spring numbering).1.isSuccess = true ∧
      (after []).respond .spring numbering = (after []).respond .spring commissioning ∧
      ((after []).respond .spring numbering).1.at? ["temp_id"] = some (.string "t") := by
  have horder : numbering.order = .ok (.piece (.create (commissioned 7 (some "u")))) :=
    eq_ok_of_toOption (by decide +kernel)
  have horder' : commissioning.order = .ok (.piece (.create (commissioned 0 none))) :=
    eq_ok_of_toOption (by decide +kernel)
  have hsuccess : ((after []).respond .spring numbering).1.isSuccess = true := by decide +kernel
  obtain ⟨-, -, hsame, hanswered⟩ := unread_ignored [] .spring .spring numbering commissioning _ _
    horder horder' (.createPiece rfl rfl rfl (.create rfl))
  exact ⟨horder, horder', hsuccess, hsame, (hanswered hsuccess).2 .piece rfl⟩

end Session

end Recital
