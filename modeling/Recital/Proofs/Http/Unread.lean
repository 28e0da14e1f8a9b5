import Mathlib.Logic.Basic
import Recital.Proofs.Http.Site
import Recital.Proofs.Http.Timeless
import Recital.Proofs.Catalogue.Keeping

/-!
# What the service does not look at

An id that the service gives itself, a composer or a venue that it resolves, and the marks of inner intents
may be anything.

* `SameButId` : two rows differ in their ids only.
* `Intent.Alike`, `EventCommand.Alike`, `Order.Alike` : two intents, commands and orders differ in what is not
  looked at.
* `resolve_eq_of_alike` : such intents are resolved alike.
* `Alike.plan_eq` : such orders have the same plan.  `Alike.respond` : they have one response, at any two
  moments and on any two catalogues that are alike.
-/

set_option autoImplicit false

namespace Recital

open Step Statement

/-! ## Rows that differ in their ids -/

/-- The rows differ in their ids only. -/
def SameButId {α : Type} [Keyed α] (a a' : α) : Prop :=
  Keyed.withId 0 a = Keyed.withId 0 a'

/-- Rows in which an id only takes the place of another one. -/
class LawfulKeyed (α : Type) [Keyed α] : Prop where
  withId_withId : ∀ (i j : Int) (a : α), Keyed.withId i (Keyed.withId j a) = Keyed.withId i a

instance : LawfulKeyed Composer := ⟨fun _ _ _ => rfl⟩
instance : LawfulKeyed Piece := ⟨fun _ _ _ => rfl⟩
instance : LawfulKeyed Programme := ⟨fun _ _ _ => rfl⟩
instance : LawfulKeyed Venue := ⟨fun _ _ _ => rfl⟩

theorem SameButId.withId_eq {α : Type} [Keyed α] [LawfulKeyed α] {a a' : α} (h : SameButId a a')
    (id : Int) : Keyed.withId id a = Keyed.withId id a' := by
  rw [← LawfulKeyed.withId_withId id 0 a, ← LawfulKeyed.withId_withId id 0 a', h]

/-- What does not look at the id does not tell the rows apart. -/
theorem SameButId.congr {α β : Type} [Keyed α] {f : α → β} {a a' : α} (h : SameButId a a')
    (hf : ∀ (id : Int) (a : α), f (Keyed.withId id a) = f a) : f a = f a' := by
  rw [← hf 0 a, h, hf]

/-- A new row gets another id anyway. -/
theorem insert_eq_of_sameButId {α : Type} [Stored α] [LawfulStored α] [LawfulKeyed α] {a a' : α}
    (h : SameButId a a') : Statement.insert a = Statement.insert a' := by
  have hrefers : ∀ db, Stored.refers db a = Stored.refers db a' :=
    fun db => h.congr (LawfulStored.refers_withId db)
  simp only [Statement.insert, hrefers, Table.insert?, h.withId_eq]

/-! ## Intents -/

/-- The entities whose rules do not look at the id. -/
class LawfulUnnumbered (α : Type) [Resolvable α] : Prop extends LawfulStored α, LawfulKeyed α where
  validate_withId : ∀ (id : Int) (a : α),
    Resolvable.validate (Keyed.withId id a) = Resolvable.validate a
  needs_withId : ∀ (id : Int) (a : α), Resolvable.needs (Keyed.withId id a) = Resolvable.needs a

instance : LawfulUnnumbered Composer where
  validate_withId _ _ := rfl
  needs_withId _ _ := rfl

instance : LawfulUnnumbered Piece where
  validate_withId _ _ := rfl
  needs_withId _ _ := rfl

instance : LawfulUnnumbered Venue where
  validate_withId _ _ := rfl
  needs_withId _ _ := rfl

/-- The intents differ in what is not looked at: their marks, all but the id of what is to be taken, and the
id of what is to be made. -/
inductive Intent.Alike {α : Type} [Keyed α] : Intent α → Intent α → Prop where
  | select {a a' : α} {mark mark' : Option String} (hid : Keyed.id a = Keyed.id a') :
      Alike ⟨.select, a, mark⟩ ⟨.select, a', mark'⟩
  | create {a a' : α} {mark mark' : Option String} (h : SameButId a a') :
      Alike ⟨.create, a, mark⟩ ⟨.create, a', mark'⟩
  | marked (operation : Operation) (a : α) (mark mark' : Option String) :
      Alike ⟨operation, a, mark⟩ ⟨operation, a, mark'⟩

theorem resolve_eq_of_alike {α : Type} [Resolvable α] [LawfulUnnumbered α] {intent intent' : Intent α}
    (h : intent.Alike intent') : resolve intent = resolve intent' := by
  cases h with
  | select hid =>
    unfold resolve
    simp only
    rw [hid]
  | @create a a' _ _ h =>
    have hvalidate : Resolvable.validate a = Resolvable.validate a' :=
      h.congr LawfulUnnumbered.validate_withId
    have hneeds : Resolvable.needs a = Resolvable.needs a' :=
      h.congr LawfulUnnumbered.needs_withId
    unfold resolve
    simp only
    rw [hvalidate, hneeds, insert_eq_of_sameButId h]
  | marked operation a mark mark' => rfl

theorem ensure_eq_of_operation {α : Type} {intent intent' : Intent α} {expected : Operation}
    (h : intent.operation = intent'.operation) : intent.ensure expected = intent'.ensure expected := by
  simp only [Intent.ensure, h]

/-- Only where the check does not fail does it matter what comes after it. -/
theorem Plan.after_congr {α : Type} {check check' : Except Fault Unit} {s s' : Step α}
    (hcheck : check = check') (hs : check = .ok () → s = s') :
    Plan.after check s = Plan.after check' s' := by
  subst hcheck
  cases check with
  | ok u => rw [hs rfl]
  | error e => rfl

/-- A row that its rule lets through is made under another id anyway. -/
theorem insertValid_eq {α : Type} [Stored α] [LawfulStored α] [LawfulKeyed α]
    {validate : α → Except Violation Unit} {a a' : α} (h : SameButId a a')
    (hvalidate : ∀ (id : Int) (a : α), validate (Keyed.withId id a) = validate a) :
    Plan.after (valid (validate a)) (insert a) = Plan.after (valid (validate a')) (insert a') :=
  Plan.after_congr (congrArg valid (h.congr hvalidate)) fun _ => insert_eq_of_sameButId h

/-! ## Use cases -/

namespace Desk

/-- The commands differ in what is not looked at: in the venue of the details, if there is an intent on
it, and in what is not looked at in that. -/
inductive EventCommand.Alike : EventCommand → EventCommand → Prop where
  | given (event : EventDetails) (mark mark' : Option String) :
      Alike ⟨event, none, mark⟩ ⟨event, none, mark'⟩
  | resolved {event event' : EventDetails} {intent intent' : Intent Venue} {mark mark' : Option String}
      (hevent : { event with venueId := none } = { event' with venueId := none })
      (hvenue : intent.Alike intent') :
      Alike ⟨event, some intent, mark⟩ ⟨event', some intent', mark'⟩

theorem resolveVenue_eq_of_alike {command command' : EventCommand} (h : command.Alike command') :
    resolveVenue command = resolveVenue command' := by
  cases h with
  | given event mark mark' => rfl
  | @resolved event event' intent intent' _ _ hevent hvenue =>
    have hwith : ∀ id : Option Int, { event with venueId := id } = { event' with venueId := id } :=
      fun id => congrArg (fun e : EventDetails => { e with venueId := id }) hevent
    unfold resolveVenue
    simp only [hwith]
    rw [resolve_eq_of_alike hvenue]

/-- A piece gets its composer from the intent on that, and a new one its id from the table. -/
theorem createPiece_eq {command command' : PieceCommand}
    (hop : command.piece.operation = command'.piece.operation)
    (htitle : command.piece.data.title = command'.piece.data.title)
    (hcomposer : command.composer.Alike command'.composer) :
    createPiece command = createPiece command' := by
  refine Plan.after_congr (ensure_eq_of_operation hop) fun hensure => ?_
  have hcreate := operation_of_ensure hensure
  have hpiece : ∀ composer : Composer,
      resolve { command.piece with data := { command.piece.data with composerId := composer.id } } =
        resolve { command'.piece with data := { command'.piece.data with composerId := composer.id } } := by
    intro composer
    simp only [← hop, hcreate]
    refine resolve_eq_of_alike (.create ?_)
    exact congrArg (fun title => Piece.mk 0 title composer.id) htitle
  rw [resolve_eq_of_alike hcomposer]
  exact congrArg (fun next => atomically do
    let composer ← resolve command'.composer
    next composer) (funext hpiece)

/-- A piece that is changed keeps its id. -/
theorem updatePiece_eq {id : Int} {command command' : PieceCommand}
    (hop : command.piece.operation = command'.piece.operation)
    (htitle : command.piece.data.title = command'.piece.data.title)
    (hcomposer : command.composer.Alike command'.composer) :
    updatePiece id command = updatePiece id command' := by
  refine Plan.after_congr (ensure_eq_of_operation hop) fun _ => ?_
  have hpiece : ∀ composer : Composer,
      resolve { command.piece with
        data := { command.piece.data with id := id, composerId := composer.id } } =
      resolve { command'.piece with
        data := { command'.piece.data with id := id, composerId := composer.id } } := by
    intro composer
    simp only [hop, htitle]
    exact resolve_eq_of_alike (.marked _ _ _ _)
  rw [resolve_eq_of_alike hcomposer]
  exact congrArg (fun next => atomically do
    lock .piece id
    let composer ← resolve command'.composer
    next composer) (funext hpiece)

theorem createVenue_eq {venue venue' : Intent Venue} (hop : venue.operation = venue'.operation)
    (hdata : SameButId venue.data venue'.data) : createVenue venue = createVenue venue' := by
  refine Plan.after_congr (ensure_eq_of_operation hop) fun hensure => ?_
  have hcreate := operation_of_ensure hensure
  obtain ⟨operation, data, mark⟩ := venue
  obtain ⟨operation', data', mark'⟩ := venue'
  obtain rfl : operation = .create := hcreate
  obtain rfl : .create = operation' := hop
  exact resolve_eq_of_alike (.create hdata)

theorem updateVenue_eq {id : Int} {venue venue' : Intent Venue}
    (hop : venue.operation = venue'.operation) (hdata : SameButId venue.data venue'.data) :
    updateVenue id venue = updateVenue id venue' := by
  refine Plan.after_congr (ensure_eq_of_operation hop) fun _ => ?_
  have hwith : { venue.data with id := id } = { venue'.data with id := id } := hdata.withId_eq id
  rw [hop, hwith]
  exact resolve_eq_of_alike (.marked _ _ _ _)

theorem createComposer_eq {c c' : Composer} (h : SameButId c c') :
    createComposer c = createComposer c' :=
  insertValid_eq h fun _ _ => rfl

theorem updateComposer_eq {id : Int} {c c' : Composer} (h : SameButId c c') :
    updateComposer id c = updateComposer id c' := by
  have hwith : { c with id := id } = { c' with id := id } := h.withId_eq id
  rw [updateComposer, hwith, updateComposer]

theorem createProgramme_eq {p p' : Programme} (h : SameButId p p') :
    createProgramme p = createProgramme p' :=
  insertValid_eq h fun _ _ => rfl

theorem updateProgramme_eq {id : Int} {p p' : Programme} (h : SameButId p p') :
    updateProgramme id p = updateProgramme id p' := by
  have hwith : { p with id := id } = { p' with id := id } := h.withId_eq id
  rw [updateProgramme, hwith, updateProgramme]

end Desk

/-! ## Orders -/

namespace Http

open Desk

/-- The orders differ in what is not looked at.  A mark is looked at where it is answered. -/
inductive Order.Alike : Order → Order → Prop where
  | same {order : Order} (hwrites : order.isReading = false) : Alike order order
  | createComposer {c c' : Composer} (h : SameButId c c') :
      Alike (.composer (.create c)) (.composer (.create c'))
  | updateComposer {id : Int} {c c' : Composer} (h : SameButId c c') :
      Alike (.composer (.update id c)) (.composer (.update id c'))
  | createProgramme {p p' : Programme} (h : SameButId p p') :
      Alike (.programme (.create p)) (.programme (.create p'))
  | updateProgramme {id : Int} {p p' : Programme} (h : SameButId p p') :
      Alike (.programme (.update id p)) (.programme (.update id p'))
  | createPiece {command command' : PieceCommand}
      (hop : command.piece.operation = command'.piece.operation)
      (htitle : command.piece.data.title = command'.piece.data.title)
      (hmark : command.piece.tempId = command'.piece.tempId)
      (hcomposer : command.composer.Alike command'.composer) :
      Alike (.piece (.create command)) (.piece (.create command'))
  | updatePiece {id : Int} {command command' : PieceCommand}
      (hop : command.piece.operation = command'.piece.operation)
      (htitle : command.piece.data.title = command'.piece.data.title)
      (hcomposer : command.composer.Alike command'.composer) :
      Alike (.piece (.update id command)) (.piece (.update id command'))
  | createVenue {venue venue' : Intent Venue} (hop : venue.operation = venue'.operation)
      (hmark : venue.tempId = venue'.tempId) (hdata : SameButId venue.data venue'.data) :
      Alike (.venue (.create venue)) (.venue (.create venue'))
  | updateVenue {id : Int} {venue venue' : Intent Venue} (hop : venue.operation = venue'.operation)
      (hdata : SameButId venue.data venue'.data) :
      Alike (.venue (.update id venue)) (.venue (.update id venue'))
  | createEvent {command command' : EventCommand} (hmark : command.tempId = command'.tempId)
      (h : command.Alike command') : Alike (.event (.create command)) (.event (.create command'))
  | updateEvent {id : Int} {command command' : EventCommand} (h : command.Alike command') :
      Alike (.event (.update id command)) (.event (.update id command'))

variable {order order' : Order} {now now' : Instant}

theorem Order.Alike.isReading_eq_false (h : order.Alike order') :
    order.isReading = false ∧ order'.isReading = false := by
  cases h with
  | same hwrites => exact ⟨hwrites, hwrites⟩
  | _ => exact ⟨rfl, rfl⟩

/-- **Orders that differ in what is not looked at have the same plan.** -/
theorem Order.Alike.plan_eq (h : order.Alike order') : order.plan now = order'.plan now := by
  cases h with
  | same hwrites => rfl
  | createComposer h =>
    exact congrArg (fun plan => Sum.inr (creating none plan)) (createComposer_eq h)
  | updateComposer h => exact congrArg (fun plan => Sum.inr (showing plan)) (updateComposer_eq h)
  | createProgramme h =>
    exact congrArg (fun plan => Sum.inr (creating none plan)) (createProgramme_eq h)
  | updateProgramme h => exact congrArg (fun plan => Sum.inr (showing plan)) (updateProgramme_eq h)
  | createPiece hop htitle hmark hcomposer =>
    exact congrArg₂ (fun mark plan => Sum.inr (creating mark plan)) hmark
      (createPiece_eq hop htitle hcomposer)
  | updatePiece hop htitle hcomposer =>
    exact congrArg (fun plan => Sum.inr (showing plan)) (updatePiece_eq hop htitle hcomposer)
  | createVenue hop hmark hdata =>
    exact congrArg₂ (fun mark plan => Sum.inr (creating mark plan)) hmark (createVenue_eq hop hdata)
  | updateVenue hop hdata =>
    exact congrArg (fun plan => Sum.inr (showing plan)) (updateVenue_eq hop hdata)
  | createEvent hmark h =>
    simp only [Order.plan, EventOrder.plan, Desk.createEvent, hmark, resolveVenue_eq_of_alike h]
  | updateEvent h =>
    simp only [Order.plan, EventOrder.plan, Desk.updateEvent, resolveVenue_eq_of_alike h]

/-- Orders that differ in what is not looked at have one response, at any two moments. -/
theorem Order.Alike.respond (h : order.Alike order') {db db' : Catalogue} (hdb : db.Alike db') :
    (order.respond now db).1 = (order'.respond now' db').1 ∧
      (order.respond now db).2.Alike (order'.respond now' db').2 := by
  have hsame : order.respond now db = order'.respond now db := by
    simp only [Order.respond, h.plan_eq]
  rw [hsame]
  exact timeless_respond now now' h.isReading_eq_false.2 hdb

theorem refused_eventOrder (order : EventOrder) : (order.plan now).refused = .database := by
  cases order <;> rfl

/-- So they have when the catalogue is closed. -/
theorem Order.Alike.respondClosed (h : order.Alike order') :
    order.respondClosed now = order'.respondClosed now' := by
  have hsame : order.respondClosed now = order'.respondClosed now := by
    simp only [Order.respondClosed, h.plan_eq]
  rw [hsame]
  cases order' with
  | event order' =>
    simp only [Order.respondClosed, Order.plan, refused_eventOrder]
  | _ => rfl

/-- A request that writes asks for the whole response. -/
theorem trim_eq_of_order {request : Request} (horder : request.order = .ok order)
    (hwrites : order.isReading = false) (r : Response) : request.trim r = r := by
  unfold Request.trim
  refine if_neg fun hhead => ?_
  have hmethod : Method.ofName? request.method = some .get := by
    rw [Request.isHead, decide_eq_true_eq] at hhead
    rw [hhead]
    rfl
  cases (isReading_of_order hmethod horder).symm.trans hwrites

end Http

end Recital
