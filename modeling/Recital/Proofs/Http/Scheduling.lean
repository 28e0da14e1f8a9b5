import Recital.Proofs.Catalogue.Listing
import Recital.Proofs.Http.Effect

/-!
# Scheduling has its effects

Every use case on the events of a readable catalogue has the effect of its order where it succeeds.  Where
it fails, the catalogue is left as it was, and the fault is excused.

* `meets_resolveDetails` : the details of an event, with its venue resolved and its references checked.
* `meets_createEvent`, … , `meets_deleteEvent` : the use cases.
-/

set_option autoImplicit false

namespace Recital.Http

open Step Statement Desk

variable {now : Instant} {db : Catalogue} {id : Int} {command : EventCommand}

/-! ## References -/

section References

variable {Q : Unit → Catalogue → Prop} {E : Fault → Catalogue → Prop}

theorem meets_requireReference {kind : Kind} {reference : Option Int}
    (hQ : db.refers kind reference = true → Q () db) (hE : E .notFound db) :
    (requireReference kind reference).Meets db Q E := by
  cases reference with
  | none => exact hQ rfl
  | some id => exact meets_require.2 ⟨hQ, fun _ => hE⟩

theorem meets_requireReferences {e : Event}
    (hQ : db.refers .venue e.venueId = true → db.refers .programme e.programmeId = true → Q () db)
    (hE : E .notFound db) : (requireReferences e).Meets db Q E := by
  unfold requireReferences
  rw [meets_bind]
  refine meets_requireReference (fun hvenue => ?_) hE
  exact meets_requireReference (hQ hvenue) hE

end References

/-- The venue of a command is resolved, and the event with the details that result is checked. -/
theorem meets_resolveDetails {β : Type} {e : Event} {Q : β → Catalogue → Prop}
    (next : Event → Step β)
    (h : ∀ details vs, VenueResolved db command details vs → Text.isBlank details.title = false →
      { db with venues := vs }.refers .venue details.venueId = true →
      db.refers .programme details.programmeId = true →
      (next (e.apply details)).Meets { db with venues := vs } Q fun e _ => db.Excuses e) :
    (do let details ← resolveVenue command
        check (valid (e.apply details).validate)
        requireReferences (e.apply details)
        next (e.apply details)).Meets db Q fun e _ => db.Excuses e := by
  rw [meets_bind]
  refine meets_resolveVenue.mono ?_ fun f db' hf => hf.2
  rintro details db' ⟨vs, hvenue, rfl⟩
  rw [meets_bind, meets_check]
  refine ⟨fun u hu => ?_, fun f hf => Or.inl (isBusinessRule_of_valid hf)⟩
  have htitle := Event.isBlank_title_of_validate (valid_eq_ok hu)
  rw [meets_bind]
  exact meets_requireReferences (h details vs hvenue htitle) (Or.inl rfl)

/-! ## Details -/

theorem meets_createEvent :
    (Desk.createEvent now command).run.Meets db
      (fun made db' => Order.Effect now db (.event (.create command)) (.created command.tempId made)
        db')
      db.Refused := by
  refine meets_unit (meets_resolveDetails (insertEvent now) ?_)
  intro details vs hvenue htitle hv hp
  have hrefers : { db with venues := vs }.Refers (EventRow.ofEvent now (Event.draft details)) :=
    ⟨hv, hp⟩
  refine meets_insertEvent (Catalogue.refers_stored.2 hrefers) ?_ fun hnone => ?_
  · intro new t hnew made hmade
    exact .createEvent hvenue htitle hrefers hnew hmade
  · exact Or.inr ⟨.event, Table.lastId_of_insert?_eq_none hnone⟩

/-- What a stored event is, and that its row is there. -/
theorem meets_fetchStored {α : Type} {next : Event → Step α} {Q : α → Catalogue → Prop}
    (hread : db.Readable)
    (h : ∀ row e, db.events.find? id = some row → row.event = .ok e →
      (next e).Meets db Q fun e _ => db.Excuses e) :
    (do lock .event id
        let e ← fetchEvent id
        next e).Meets db Q fun e _ => db.Excuses e := by
  rw [meets_bind, meets_lock]
  refine ⟨fun _ => ?_, fun _ => Or.inl rfl⟩
  rw [meets_bind, meets_fetchEvent]
  refine ⟨fun row hrow => ⟨fun e he => h row e hrow he, fun f hf => ?_⟩, fun _ => Or.inl rfl⟩
  exact absurd hf (hread row (Table.mem_of_find? hrow)).not_error

theorem meets_updateEvent (hread : db.Readable) :
    (Desk.updateEvent now id command).run.Meets db
      (fun shown db' => Order.Effect now db (.event (.update id command)) (.shown shown) db')
      db.Refused := by
  refine meets_unit (meets_fetchStored hread fun row e hrow he => ?_)
  obtain ⟨d, hd, rfl⟩ := EventRow.event_eq_ok_iff.1 he
  obtain rfl := Table.id_of_find? hrow
  rw [meets_bind, meets_check]
  refine ⟨fun u hu => ?_, fun f hf => Or.inl (Event.isBusinessRule_of_mutable hf)⟩
  have hdraft := Event.status_of_mutable hu
  refine meets_resolveDetails (fun e => do
    let updated ← Statement.updateEvent now e
    Listing.withProgramme updated) fun details vs hvenue htitle hv hp => ?_
  have hrefers : { db with venues := vs }.Refers (row.edited now details) := ⟨hv, hp⟩
  rw [meets_bind]
  refine Statement.meets_updateEvent hrow (hread row (Table.mem_of_find? hrow))
    (Catalogue.refers_stored.2 hrefers) fun made hmade => ?_
  refine Listing.reads_withProgramme.meets.mono ?_ ?_
  · rintro shown db' ⟨rfl, hshown⟩
    exact .updateEvent hrow hdraft hvenue htitle hrefers hmade hshown
  · rintro f db' ⟨-, hf⟩
    exact Or.inl hf

/-! ## Notes and status -/

/-- A statement on the row of an event, which may be missing. -/
theorem meets_ofRow {change : Catalogue → EventRow → Except Fault EventRow}
    {Q : Event → Catalogue → Prop}
    (h : ∀ row, db.events.find? id = some row → (changeEvent id change).Meets db Q db.Refused) :
    (changeEvent id change).Meets db Q db.Refused := by
  cases hrow : db.events.find? id with
  | some row => exact h row hrow
  | none =>
    refine meets_changeEvent.2 ⟨fun row hsome => ?_, fun _ => .rule rfl⟩
    cases hrow.symm.trans hsome

theorem meets_updateNotes (hread : db.Readable) {notes : Option String} :
    (Desk.updateNotes now id notes).run.Meets db
      (fun made db' => Order.Effect now db (.event (.updateNotes id notes)) (.shown made) db')
      db.Refused := by
  refine meets_ofRow fun row hrow => ?_
  refine Statement.meets_updateNotes hrow (hread row (Table.mem_of_find? hrow)) fun made hmade => ?_
  exact .updateNotes hrow hmade

theorem meets_draftEvent (hread : db.Readable) :
    (Desk.draftEvent now id).run.Meets db
      (fun made db' => Order.Effect now db (.event (.draft id)) (.shown made) db') db.Refused := by
  refine meets_ofRow fun row hrow => ?_
  refine meets_setStatus hrow (hread row (Table.mem_of_find? hrow)) fun made hmade => ?_
  exact .draft hrow hmade

theorem meets_archiveEvent (hread : db.Readable) :
    (Desk.archiveEvent now id).run.Meets db
      (fun made db' => Order.Effect now db (.event (.archive id)) (.shown made) db') db.Refused := by
  refine meets_ofRow fun row hrow => ?_
  refine meets_setStatus hrow (hread row (Table.mem_of_find? hrow)) fun made hmade => ?_
  exact .archive hrow hmade

theorem meets_requirePieced {programmeId : Option Int} {Q : Unit → Catalogue → Prop}
    {E : Fault → Catalogue → Prop}
    (hQ : (∀ p, programmeId = some p → db.slotsOf p ≠ []) → Q () db)
    (hE : ∀ f, f.isBusinessRule = true → E f db) : (requirePieced programmeId).Meets db Q E := by
  cases programmeId with
  | none => exact hQ fun p hp => nomatch hp
  | some p =>
    unfold requirePieced
    rw [meets_bind, meets_fetch]
    refine ⟨fun _ _ => ?_, fun _ => hE _ rfl⟩
    rw [meets_bind, meets_count]
    by_cases hn : Dependency.programmePieces.count db p = 0
    · rw [if_pos hn]
      exact hE _ rfl
    · rw [if_neg hn]
      refine hQ fun k hk => ?_
      cases hk
      exact fun hnil => hn (Dependency.programmePieces_eq_zero.2 hnil)

theorem meets_publishEvent (hread : db.Readable) :
    (Desk.publishEvent now id).run.Meets db
      (fun made db' => Order.Effect now db (.event (.publish id)) (.shown made) db') db.Refused := by
  refine meets_unit (meets_fetchStored hread fun row e hrow he => ?_)
  rw [meets_bind, meets_check]
  refine ⟨fun u hu => ?_, fun f hf => Or.inl (isBusinessRule_of_valid hf)⟩
  have htitle := Event.isBlank_title_of_validate (valid_eq_ok hu)
  rw [meets_bind]
  refine meets_requirePieced (fun hpieced => ?_) fun f hf => Or.inl hf
  rw [meets_bind, meets_check]
  cases hpublishable : e.publishable with
  | error v =>
    constructor
    · intro u hu
      cases hu
    · intro f hf
      cases hf
      exact Or.inl rfl
  | ok u =>
    have hcomplete := EventRow.complete_of_publishable he hpublishable
    obtain ⟨d, hd, rfl⟩ := EventRow.event_eq_ok_iff.1 he
    constructor
    · intro _ _
      refine meets_setStatus hrow (hread row (Table.mem_of_find? hrow)) fun made hmade => ?_
      exact .publish hrow htitle hcomplete hpieced hmade
    · intro f hf
      cases hf

/-! ## Removal -/

theorem meets_deleteEvent (hread : db.Readable) :
    (Desk.deleteEvent id).run.Meets db
      (fun _ db' => Order.Effect now db (.event (.delete id)) .noContent db') db.Refused := by
  refine meets_unit (meets_fetchStored hread fun row e hrow he => ?_)
  rw [meets_bind, meets_check]
  refine ⟨fun u hu => ?_, fun f hf => Or.inl (Event.isBusinessRule_of_deletable hf)⟩
  have hdeletable := Event.status_of_deletable hu
  obtain ⟨d, hd, rfl⟩ := EventRow.event_eq_ok_iff.1 he
  refine Statement.meets_deleteEvent.2 ⟨fun _ => .deleteEvent hrow hdeletable, fun _ => Or.inl rfl⟩

end Recital.Http
