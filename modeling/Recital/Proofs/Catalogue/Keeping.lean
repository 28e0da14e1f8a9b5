import Recital.Catalogue.Listing
import Recital.Intent.Resolution
import Recital.Proofs.Catalogue.Integrity

/-!
# Every statement keeps integrity

The schema alone keeps the references of a catalogue, whatever is asked of it and however far it gets.

* `Step.Keeps` : a step leaves a property as it found it, whether it gives a value or a fault.
  `Keeps.bind`, `Keeps.atomically`, … : one rule for each way in which steps are made.
* `LawfulStored` : kinds of rows whose tables may be written wherever the references name rows.
* `keeps_insert`, `keeps_update`, `keeps_deleteComposer`, … : every statement keeps `Catalogue.Integrity`.
* `keeps_replaceSlots` : so does what is left of several statements when one of them fails.
-/

set_option autoImplicit false

namespace Recital

/-! ## Steps that keep a property -/

namespace Step

variable {α β : Type} {P : Catalogue → Prop} {step : Step α}

/-- Where it finds a catalogue with `P`, the step leaves one, whatever it gives. -/
def Keeps (step : Step α) (P : Catalogue → Prop) : Prop :=
  ∀ db, P db → P (step.run db).2

theorem Keeps.of_meets (h : ∀ db, P db → step.Meets db (fun _ db' => P db') fun _ db' => P db') :
    step.Keeps P := by
  intro db hdb
  have hmeets := h db hdb
  unfold Meets at hmeets
  cases hrun : step.run db with
  | mk r db' =>
    rw [hrun] at hmeets
    cases r with
    | ok a => exact hmeets
    | error e => exact hmeets

theorem keeps_pure (a : α) : (pure a : Step α).Keeps P :=
  fun _ hdb => hdb

theorem keeps_fail (e : Fault) : (fail e : Step α).Keeps P :=
  fun _ hdb => hdb

theorem keeps_check (r : Except Fault α) : (check r).Keeps P :=
  fun _ hdb => hdb

theorem keeps_query (f : Catalogue → Except Fault α) : (query f).Keeps P :=
  fun _ hdb => hdb

theorem keeps_statement {f : Catalogue → Except Fault (α × Catalogue)}
    (h : ∀ db a db', P db → f db = .ok (a, db') → P db') : (statement f).Keeps P := by
  refine .of_meets fun db hdb => meets_statement.2 ?_
  cases hf : f db with
  | error e => exact hdb
  | ok p => exact h db p.1 p.2 hdb hf

theorem Keeps.bind {next : α → Step β} (h : step.Keeps P) (hnext : ∀ a, (next a).Keeps P) :
    (step >>= next).Keeps P := by
  intro db hdb
  have hfirst := h db hdb
  rw [bind_run]
  cases hrun : step.run db with
  | mk r db' =>
    rw [hrun] at hfirst
    cases r with
    | error e => exact hfirst
    | ok a => exact hnext a db' hfirst

theorem Keeps.atomically (h : step.Keeps P) : (atomically step).Keeps P := by
  refine .of_meets fun db hdb => meets_atomically.2 ?_
  have hstep := h db hdb
  unfold Meets
  cases hrun : step.run db with
  | mk r db' =>
    rw [hrun] at hstep
    cases r with
    | ok a => exact hstep
    | error e => exact hdb

end Step

/-! ## Slots, one at a time -/

namespace Catalogue.Integrity

variable {db : Catalogue} {id : Int} {slot : Slot}

theorem clearSlots (h : db.Integrity) :
    { db with slots := db.slots.filter fun s => s.programmeId ≠ id }.Integrity :=
  { h with
    slotProgramme := fun s hs => h.slotProgramme s (List.mem_filter.1 hs).1
    slotPiece := fun s hs => h.slotPiece s (List.mem_filter.1 hs).1
    slotPositive := fun s hs => h.slotPositive s (List.mem_filter.1 hs).1
    slotsApart := h.slotsApart.filter _ }

/-- A slot that the schema allows takes a place that no other slot has. -/
theorem insertSlot (h : db.Integrity) (hpositive : 0 < slot.sequence)
    (hprogramme : db.has .programme slot.programmeId = true)
    (hpiece : db.has .piece slot.pieceId = true)
    (hfree : ∀ s ∈ db.slots, s.programmeId = slot.programmeId → s.sequence ≠ slot.sequence) :
    { db with slots := db.slots ++ [slot] }.Integrity := by
  have hcases : ∀ s ∈ db.slots ++ [slot], s ∈ db.slots ∨ s = slot := by
    intro s hs
    simpa using hs
  refine { h with
    slotProgramme := ?_
    slotPiece := ?_
    slotPositive := ?_
    slotsApart := ?_ }
  · intro s hs
    rcases hcases s hs with hs | rfl
    · exact h.slotProgramme s hs
    · exact hprogramme
  · intro s hs
    rcases hcases s hs with hs | rfl
    · exact h.slotPiece s hs
    · exact hpiece
  · intro s hs
    rcases hcases s hs with hs | rfl
    · exact h.slotPositive s hs
    · exact hpositive
  · refine List.pairwise_append.2 ⟨h.slotsApart, List.pairwise_singleton _ _, ?_⟩
    intro s hs t ht
    rw [List.mem_singleton.1 ht]
    exact hfree s hs

end Catalogue.Integrity

/-! ## Rows -/

/-- Rows that may be written wherever their references name rows. -/
class LawfulStored (α : Type) [Stored α] : Prop where
  refers_withId : ∀ (db : Catalogue) (id : Int) (row : α),
    Stored.refers db (Keyed.withId id row) = Stored.refers db row
  integrity_setTable : ∀ {db : Catalogue} {t : Table α}, db.Integrity → (Stored.table db).Grows t →
    (∀ row ∈ t.rows, row ∈ (Stored.table (α := α) db).rows ∨ Stored.refers db row = true) →
    (Stored.setTable t db).Integrity

instance : LawfulStored Composer where
  refers_withId _ _ _ := rfl
  integrity_setTable h ht _ := h.withComposers ht

instance : LawfulStored Piece where
  refers_withId _ _ _ := rfl
  integrity_setTable h ht hrows :=
    h.withPieces ht fun p hp => (hrows p hp).elim (h.pieceComposer p) id

instance : LawfulStored Programme where
  refers_withId _ _ _ := rfl
  integrity_setTable h ht _ := h.withProgrammes ht

instance : LawfulStored Venue where
  refers_withId _ _ _ := rfl
  integrity_setTable h ht _ := h.withVenues ht

instance : LawfulStored EventRow where
  refers_withId _ _ _ := rfl
  integrity_setTable h ht hrows :=
    h.withEvents (ht.sound h.events) fun row hrow =>
      (hrows row hrow).elim (h.eventRefers row) Catalogue.refers_stored.1

namespace Statement

open Step Catalogue

section Rows

variable {α : Type} [Stored α]

theorem keeps_fetch {P : Catalogue → Prop} (id : Int) : (fetch id : Step α).Keeps P :=
  keeps_query _

theorem keeps_insert [LawfulStored α] (row : α) : (insert row).Keeps Integrity := by
  refine .of_meets fun db hdb => meets_insert.2 ⟨fun hrefers => ⟨?_, fun _ => hdb⟩, fun _ => hdb⟩
  intro new t hnew
  refine LawfulStored.integrity_setTable hdb (.insert? hnew) fun r hr => ?_
  rcases Table.mem_insert? hnew hr with hr | rfl
  · exact Or.inl hr
  · rw [(Table.new_of_insert? hnew).1, LawfulStored.refers_withId]
    exact Or.inr hrefers

theorem keeps_update [LawfulStored α] (row : α) : (update row).Keeps Integrity := by
  refine .of_meets fun db hdb => meets_update.2 ⟨fun _ => ⟨fun hrefers => ?_, fun _ => hdb⟩, fun _ => hdb⟩
  refine LawfulStored.integrity_setTable hdb .put fun r hr => ?_
  rcases Table.mem_put hr with hr | rfl
  · exact Or.inl hr
  · exact Or.inr hrefers

end Rows

section Queries

variable {P : Catalogue → Prop} {kind : Kind} {id : Int}

theorem keeps_lock : (lock kind id).Keeps P :=
  keeps_query _

theorem keeps_require : (require kind id).Keeps P := by
  refine Keeps.bind (keeps_query _) fun found => ?_
  split
  · exact keeps_pure _
  · exact keeps_fail _

theorem keeps_requireFree {dependency : Dependency} {blocked : Fault} :
    (requireFree dependency id blocked).Keeps P := by
  refine Keeps.bind (keeps_query _) fun n => ?_
  split
  · exact keeps_fail _
  · exact keeps_pure _

theorem keeps_fetchEvent : (fetchEvent id).Keeps P :=
  (keeps_fetch id).bind fun _ => keeps_check _

theorem keeps_biography {variant : Biography.Variant} : (biography variant).Keeps P :=
  keeps_query _

end Queries

section Removals

variable {id : Int}

theorem keeps_deleteComposer : (deleteComposer id).Keeps Integrity :=
  .of_meets fun _ hdb => meets_deleteComposer.2
    ⟨fun _ => ⟨fun hfree => hdb.eraseComposer hfree, fun _ => hdb⟩, fun _ => hdb⟩

theorem keeps_deletePiece : (deletePiece id).Keeps Integrity :=
  .of_meets fun _ hdb => meets_deletePiece.2
    ⟨fun _ => ⟨fun hfree => hdb.erasePiece hfree, fun _ => hdb⟩, fun _ => hdb⟩

theorem keeps_deleteProgramme : (deleteProgramme id).Keeps Integrity :=
  .of_meets fun _ hdb => meets_deleteProgramme.2 ⟨fun _ => hdb.eraseProgramme, fun _ => hdb⟩

theorem keeps_deleteVenue : (deleteVenue id).Keeps Integrity :=
  .of_meets fun _ hdb => meets_deleteVenue.2 ⟨fun _ => hdb.eraseVenue, fun _ => hdb⟩

theorem keeps_deleteEvent : (deleteEvent id).Keeps Integrity :=
  .of_meets fun _ hdb => meets_deleteEvent.2 ⟨fun _ => hdb.eraseEvent, fun _ => hdb⟩

end Removals

section Events

variable {now : Instant} {id : Int}

/-- An event that does not decode has been written all the same. -/
theorem keeps_insertEvent (e : Event) : (insertEvent now e).Keeps Integrity :=
  (keeps_insert _).bind fun _ => keeps_check _

theorem keeps_changeEvent {change : Catalogue → EventRow → Except Fault EventRow}
    (h : ∀ db row new, db.Refers row → change db row = .ok new → db.Refers new) :
    (changeEvent id change).Keeps Integrity := by
  refine .of_meets fun db hdb => meets_changeEvent.2 ⟨fun row hrow => ⟨?_, fun _ _ => hdb⟩, fun _ => hdb⟩
  intro new hnew
  have hrefers := hdb.eventRefers row (Table.mem_of_find? hrow)
  have hput := hdb.putEvent (h db row new hrefers hnew)
  exact ⟨fun _ _ => hput, fun _ _ => hput⟩

theorem keeps_updateEvent (e : Event) : (updateEvent now e).Keeps Integrity := by
  refine keeps_changeEvent fun db row new _ hnew => ?_
  simp only at hnew
  split at hnew
  · rename_i hrefers
    cases hnew
    exact refers_stored.1 hrefers
  · cases hnew

theorem keeps_updateNotes (notes : Option String) : (updateNotes now id notes).Keeps Integrity := by
  refine keeps_changeEvent fun db row new hrefers hnew => ?_
  cases hnew
  exact hrefers

theorem keeps_setStatus (status : Status) : (setStatus now id status).Keeps Integrity := by
  refine keeps_changeEvent fun db row new hrefers hnew => ?_
  cases hnew
  exact hrefers

end Events

section Slots

variable {id : Int}

theorem keeps_insertSlot (slot : Slot) : (insertSlot slot).Keeps Integrity := by
  refine keeps_statement fun db u db' hdb hf => ?_
  split at hf
  · rename_i hallowed
    obtain ⟨hpositive, hprogramme, hpiece, hfree⟩ := hallowed
    cases hf
    refine hdb.insertSlot hpositive hprogramme hpiece fun s hs hp hq => hfree ?_
    exact List.any_eq_true.2 ⟨s, hs, decide_eq_true ⟨hp, hq⟩⟩
  · cases hf

theorem keeps_insertSlots (entries : List (Int × Int)) : (insertSlots id entries).Keeps Integrity := by
  induction entries with
  | nil => exact keeps_pure _
  | cons entry entries ih => exact (keeps_insertSlot _).bind fun _ => ih

/-- Slots that have been written before one that fails stay, and the old ones are gone. -/
theorem keeps_replaceSlots (pieceIds : List Int) : (replaceSlots id pieceIds).Keeps Integrity :=
  (keeps_statement fun _ _ _ hdb hf => by
    cases hf
    exact hdb.clearSlots).bind fun _ => keeps_insertSlots _

end Slots

theorem keeps_putBiography (b : Biography) : (putBiography b).Keeps Integrity :=
  .of_meets fun _ hdb => meets_putBiography.2 hdb.withBiographies

end Statement

end Recital
