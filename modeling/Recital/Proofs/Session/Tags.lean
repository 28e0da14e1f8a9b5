import Recital.Proofs.Desk.Commands
import Recital.Proofs.Http.Tags
import Recital.Proofs.Session.ReadBack
import Recital.Proofs.Session.UnitOfWork

/-!
# Unknown tags never act

* `Order.earlier?` : the fault of what is looked at before an intent that an order nests.
* `Order.Unsupported.respond` : an order without a supported operation is refused, and nothing is written.
* `unknown_tags_refused` : a tag that is none of the known ones is read as such, and a request with it never acts.
-/

set_option autoImplicit false

namespace Recital

open Json Step Statement

/-! ## Intents without a supported operation -/

section Unsupported

variable {α : Type} {db : Catalogue}

theorem mismatch?_of_unsupported {intent : Intent α} (h : intent.operation = .unsupported)
    (expected : Operation) : intent.mismatch? expected = some .invalidOperation := by
  rw [Intent.mismatch?, h]

theorem refusal?_of_unsupported [Resolvable α] {intent : Intent α} (h : intent.operation = .unsupported) :
    intent.refusal? db = some .invalidOperation := by
  rw [Intent.refusal?, h]

end Unsupported

namespace Desk

variable {db : Catalogue}

theorem PieceCommand.unresolved?_of_unsupported {command : PieceCommand}
    (h : command.piece.operation = .unsupported ∨ command.composer.operation = .unsupported)
    (expected : Operation) (path : Option Int) : command.unresolved? db expected path =
      some ((command.earlier? db expected path).getD .invalidOperation) := by
  unfold PieceCommand.unresolved?
  rcases h with hpiece | hcomposer
  · have hfirst : command.earlier? db expected path = some .invalidOperation := by
      rw [PieceCommand.earlier?, mismatch?_of_unsupported hpiece, Option.some_or]
    rw [hfirst, Option.some_or, Option.getD_some]
  · rw [refusal?_of_unsupported hcomposer, Option.or_some]

theorem EventCommand.unresolved?_of_unsupported {command : EventCommand} {venue : Intent Venue}
    (hvenue : command.venue = some venue) (h : venue.operation = .unsupported) :
    command.unresolved? db = some .invalidOperation := by
  rw [EventCommand.unresolved?, hvenue, Option.bind_some, refusal?_of_unsupported h]

theorem createVenue_run_of_unsupported {venue : Intent Venue} (h : venue.operation = .unsupported) :
    (createVenue venue).run.run db = (.error .invalidOperation, db) := by
  rw [createVenue, Plan.after_run_eq (ensure_eq_raised _ _), mismatch?_of_unsupported h, barring_some]

theorem updateVenue_run_of_unsupported {id : Int} {venue : Intent Venue} (h : venue.operation = .unsupported) :
    (updateVenue id venue).run.run db = (.error .invalidOperation, db) := by
  rw [updateVenue, Plan.after_run_eq (ensure_eq_raised _ _), mismatch?_of_unsupported h, barring_some]

end Desk

namespace Http

open Desk

/-- The fault of what is looked at before an intent that an order nests: another known operation of the piece,
then a piece that is not there, or an event that cannot be edited. -/
def Order.earlier? (db : Catalogue) : Order → Option Fault
  | .piece (.create command) => command.earlier? db .create none
  | .piece (.update id command) => command.earlier? db .update (some id)
  | .event (.update id _) => db.uneditable? id
  | _ => none

variable {now : Instant} {db : Catalogue} {order : Order}

theorem Order.Unsupported.isReading_eq_false (h : order.Unsupported) : order.isReading = false := by
  cases h <;> rfl

/-- **An order without a supported operation is refused, and nothing is written.** -/
theorem Order.Unsupported.respond (h : order.Unsupported) (hread : db.Readable) :
    order.respond now db = (.ofFault ((order.earlier? db).getD .invalidOperation), db) := by
  cases h with
  | createPiece hop =>
    exact respond_of_plan_error rfl
      (createPiece_run_of_unresolved (PieceCommand.unresolved?_of_unsupported hop .create none))
  | @updatePiece id command hop =>
    exact respond_of_plan_error rfl
      (updatePiece_run_of_unresolved (PieceCommand.unresolved?_of_unsupported hop .update (some id)))
  | createVenue hop => exact respond_of_plan_error rfl (createVenue_run_of_unsupported hop)
  | updateVenue hop => exact respond_of_plan_error rfl (updateVenue_run_of_unsupported hop)
  | createEvent hvenue hop =>
    exact respond_of_plan_error rfl
      (createEvent_run_of_unresolved (EventCommand.unresolved?_of_unsupported hvenue hop))
  | updateEvent hvenue hop =>
    refine respond_of_plan_error rfl (updateEvent_run_of_unresolved hread ?_)
    rw [EventCommand.unresolved?_of_unsupported hvenue hop, Option.or_some]
    rfl

end Http

namespace Session

open Http

/-- **A tag that is none of the known ones is no reason to refuse a text, and never a reason to act.**  An intent that
carries it is read, and has no supported operation.  A request that carries it, for a new piece, venue or event or
for a change to one, at the top or nested, fails, and the session is left as it was, whatever requests and calls have
led to it.  The operation is found to be invalid, unless something that is looked at before is at fault. -/
theorem unknown_tags_refused (tag : String) (htag : tag ≠ "SELECT" ∧ tag ≠ "CREATE" ∧ tag ≠ "UPDATE") :
    (∀ (α : Type) (data : Record α) (node : Node) (a : α), data.read node = .ok a →
      (Intent.record data).read (.object [(.ofString "operation", .string (.ofString tag)),
        (.ofString "data", node)] .closed) = .ok ⟨.unsupported, a, none⟩) ∧
    (∀ (α : Type) (data : Record α) (node : Node) (t : TaggedIntent α),
      (TaggedIntent.record data).read node = .ok t → t.tag = tag →
      (Intent.record data).read node = .ok ⟨.unsupported, t.data, t.tempId⟩) ∧
    ∀ actions : List (Instant × Action), (∀ action ∈ actions, action.2.isIntervention = false) →
      ∀ (now : Instant) (request : Request) (kind : Kind) (id? : Option Int), request.Carries tag kind id? →
        ∃ order, request.order = .ok order ∧
          ((through actions).respond now request).2 = through actions ∧
          ((through actions).respond now request).1.isSuccess = false ∧
          ((through actions).isOpen = true → ((through actions).respond now request).1 =
            .ofFault ((order.earlier? (through actions).catalogue).getD .invalidOperation)) := by
  have hunknown := Operation.ofTag_of_unknown htag
  have hreads : ∀ (α : Type) (data : Record α) (node : Node) (t : TaggedIntent α),
      (TaggedIntent.record data).read node = .ok t → t.tag = tag →
      (Intent.record data).read node = .ok ⟨.unsupported, t.data, t.tempId⟩ := by
    intro α data node t hread ht
    rw [(TaggedIntent.maps data).read, hread, ← hunknown, ← ht]
    rfl
  refine ⟨fun α data node a ha => ?_, hreads, fun actions hactions now request kind id? hcarries => ?_⟩
  · exact hreads α data _ _ (TaggedIntent.read_written data tag ha) rfl
  have hreadable := readable_through hactions
  generalize through actions = s at *
  obtain ⟨order, horder, hunsupported⟩ := unsupported_of_carries hcarries hunknown
  have hwrites := hunsupported.isReading_eq_false
  refine ⟨order, horder, ?_⟩
  cases hopen : s.isOpen with
  | true =>
    have hrespond : s.respond now request = _ :=
      respond_eq_of_order hopen horder (hunsupported.respond hreadable)
    rw [hrespond, trim_eq_of_order horder hwrites]
    exact ⟨rfl, Response.isSuccess_ofFault _, fun _ => rfl⟩
  | false =>
    refine ⟨respond_of_closed hopen, Bool.eq_false_iff.2 fun hsuccess => ?_, nofun⟩
    -- on a closed catalogue, only the order for the health of the service succeeds
    rw [response_of_closed hopen] at hsuccess
    cases horder.symm.trans (order_of_isSuccess_closed hsuccess)
    cases hwrites

/-- A new piece, whose composer is to be removed. -/
def scrapping : Request :=
  .ofJson "POST" "/pieces"
    ("\x7b\"piece\":\x7b\"operation\":\"CREATE\",\"data\":\x7b\"title\":\"T\"\x7d\x7d," ++
      "\"composer\":\x7b\"operation\":\"DELETE\",\"data\":\x7b\"id\":1\x7d\x7d\x7d")

/-- The order of that request. -/
def scrapped : Desk.PieceCommand :=
  ⟨⟨.create, ⟨0, "T", 0⟩, none⟩, ⟨.unsupported, ⟨1, "", ""⟩, none⟩⟩

theorem unknown_tags_refused_scrapping :
    ("DELETE" ≠ "SELECT" ∧ "DELETE" ≠ "CREATE" ∧ "DELETE" ≠ "UPDATE") ∧
      (∀ action ∈ opening, action.2.isIntervention = false) ∧ scrapping.Carries "DELETE" .piece none ∧
      ((through opening).respond .spring scrapping).1 = .ofFault .invalidOperation ∧
      ((through opening).respond .spring scrapping).2 = through opening := by
  have htag : "DELETE" ≠ "SELECT" ∧ "DELETE" ≠ "CREATE" ∧ "DELETE" ≠ "UPDATE" := by decide
  have hactions : ∀ action ∈ opening, action.2.isIntervention = false := by decide
  have hcarries : scrapping.Carries "DELETE" .piece none :=
    ⟨by decide +kernel, ["CREATE", "DELETE"], eq_ok_of_toOption (by decide +kernel), by simp⟩
  have hscrapped : scrapping.order = .ok (.piece (.create scrapped)) :=
    eq_ok_of_toOption (by decide +kernel)
  obtain ⟨-, -, hrefused⟩ := unknown_tags_refused "DELETE" htag
  obtain ⟨order, horder, hleft, -, hresponse⟩ :=
    hrefused opening hactions .spring scrapping .piece none hcarries
  obtain rfl := Except.ok.inj (hscrapped.symm.trans horder)
  have hopen : (through opening).isOpen = true := by decide +kernel
  have hfirst : (Order.piece (.create scrapped)).earlier? (through opening).catalogue = none := by
    decide +kernel
  rw [hfirst, Option.getD_none] at hresponse
  exact ⟨htag, hactions, hcarries, hresponse hopen, hleft⟩

-- which is answered so
example : (Response.ofFault .invalidOperation).status = 400 ∧
    Fault.invalidOperation.code = "INVALID_OPERATION" :=
  ⟨rfl, rfl⟩

end Session

end Recital
