import Recital.Proofs.Catalogue.Listing
import Recital.Proofs.Http.Effect

/-!
# What every effect preserves

* `Catalogue.SoundEvent` : what holds of the row of every event.  `Catalogue.Sound` : that, and the
  integrity of the catalogue.
* `Effect.frozen` : a programme that a published event performs keeps its row and its slots.
* `Effect.integrity`, `Effect.sound` : every effect preserves what is sound.
-/

set_option autoImplicit false

namespace Recital

namespace Catalogue

/-- The row is readable and has a title.  If its event is published, nothing is missing, and the
programme has slots. -/
structure SoundEvent (db : Catalogue) (row : EventRow) : Prop where
  readable : row.Readable
  title : Text.isBlank row.title = false
  complete : row.status = .published → row.Complete
  pieced : row.status = .published → ∀ p, row.programmeId = some p → db.slotsOf p ≠ []

/-- The catalogue has integrity, and the row of every event is sound. -/
structure Sound (db : Catalogue) : Prop where
  integrity : db.Integrity
  events : ∀ row ∈ db.events.rows, db.SoundEvent row

variable {db db' : Catalogue} {id p : Int} {row : EventRow}

theorem SoundEvent.unpublished (hreadable : row.Readable) (htitle : Text.isBlank row.title = false)
    (hs : row.status ≠ .published) : db.SoundEvent row :=
  ⟨hreadable, htitle, fun h => absurd h hs, fun h => absurd h hs⟩

/-- An event loses a reference only while it is not published. -/
theorem SoundEvent.without {r : EventRow.Reference} (h : db.SoundEvent row)
    (hfree : row.status = .published → row.reference r ≠ some id) :
    db.SoundEvent (row.without r id) := by
  by_cases hreference : row.reference r = some id
  · have hunpublished : row.status ≠ .published := fun hpublished => hfree hpublished hreference
    have hreadable : (row.without r id).Readable := h.readable.without
    rw [EventRow.without_eq] at hreadable ⊢
    exact .unpublished hreadable h.title hunpublished
  · rw [EventRow.without_of_ne hreference]
    exact h

theorem Sound.readable (h : db.Sound) : db.Readable :=
  fun row hrow => (h.events row hrow).readable

theorem Sound.fresh : fresh.Sound :=
  ⟨Integrity.fresh, fun _ hrow => nomatch hrow⟩

theorem Sound.seeded (h : db.Sound) : db.seeded.Sound := by
  refine ⟨h.integrity.seeded, fun row hrow => ?_⟩
  have hevent := h.events row hrow
  exact ⟨hevent.readable, hevent.title, hevent.complete, hevent.pieced⟩

/-! ## Programmes that are performed -/

theorem performed_of_mem (hrow : row ∈ db.events.rows) (hs : row.status = .published)
    (hp : row.programmeId = some p) : db.Performed p :=
  ⟨row, hrow, hs, hp⟩

/-- A programme that is performed exists. -/
theorem Integrity.has_of_performed (h : db.Integrity) (hp : db.Performed p) :
    db.programmes.has p = true := by
  obtain ⟨row, hrow, -, hprogramme⟩ := hp
  exact refers_iff.1 (h.eventRefers row hrow).2 p hprogramme

theorem slotsOf_filter_of_ne (hne : p ≠ id) :
    { db with slots := db.slots.filter fun s => s.programmeId ≠ id }.slotsOf p = db.slotsOf p := by
  unfold slotsOf
  rw [List.filter_filter]
  refine List.filter_congr fun s hs => ?_
  by_cases hsp : s.programmeId = p
  · simp [hsp, hne]
  · simp [hsp]

theorem slotsOf_replacedSlots_of_ne {pieceIds : List Int} (hne : p ≠ id) :
    { db with slots := db.replacedSlots id pieceIds }.slotsOf p = db.slotsOf p := by
  have hnew : (slotsFor id (sequenced pieceIds)).filter (fun s => s.programmeId = p) = [] := by
    refine List.filter_eq_nil_iff.2 fun s hs => ?_
    have hs' := (mem_slotsFor hs).1
    simp only [decide_eq_true_eq]
    exact fun hsp => hne (hsp.symm.trans hs')
  have hold : { db with slots := db.slots.filter fun s => s.programmeId ≠ id }.slotsOf p =
    db.slotsOf p := slotsOf_filter_of_ne hne
  unfold slotsOf replacedSlots at *
  rw [List.filter_append, hnew, List.append_nil]
  exact hold

end Catalogue

namespace Http.Order.Effect

open Catalogue

variable {now : Instant} {db db' : Catalogue} {order : Order} {r : Response} {p : Int}

/-- **A programme that a published event performs keeps its row and its slots.** -/
theorem frozen (h : order.Effect now db r db') (hi : db.Integrity) (hp : db.Performed p) :
    db'.programmes.find? p = db.programmes.find? p ∧ db'.slotsOf p = db.slotsOf p := by
  cases h with
  | createProgramme hvalid hnew =>
    obtain ⟨old, hold⟩ := Table.find?_of_has (hi.has_of_performed hp)
    exact ⟨(Table.find?_insert? hnew hold).trans hold.symm, rfl⟩
  | @updateProgramme id _ hvalid hhas hfree =>
    have hne : p ≠ id := by
      rintro rfl
      exact hfree hp
    exact ⟨Table.find?_put.trans (if_neg hne), rfl⟩
  | @replacePieces id _ _ hhas hfree hpieces hshown =>
    have hne : p ≠ id := by
      rintro rfl
      exact hfree hp
    exact ⟨rfl, slotsOf_replacedSlots_of_ne hne⟩
  | @deleteProgramme id hhas hfree =>
    have hne : p ≠ id := by
      rintro rfl
      exact hfree hp
    exact ⟨(Table.find?_erase _ _ _).trans (if_neg hne), slotsOf_filter_of_ne hne⟩
  | _ => exact ⟨rfl, rfl⟩

theorem integrity (h : order.Effect now db r db') (hi : db.Integrity) : db'.Integrity := by
  cases h with
  | reading hreading hsuccess => exact hi
  | createComposer hvalid hnew => exact hi.withComposers (.insert? hnew)
  | updateComposer hvalid hhas => exact hi.withComposers .put
  | deleteComposer hhas hfree => exact hi.eraseComposer hfree
  | createPiece hop hcomposer hvalid hnew =>
    refine (hi.withComposers hcomposer.grows).withPieces (.insert? hnew) ?_
    intro q hq
    rcases Table.mem_insert? hnew hq with hq | rfl
    · exact hcomposer.grows.has (hi.pieceComposer q hq)
    · rw [(Table.new_of_insert? hnew).1]
      exact hcomposer.has
  | updatePiece hop hcomposer hvalid hhas =>
    refine (hi.withComposers hcomposer.grows).withPieces .put ?_
    intro q hq
    rcases Table.mem_put hq with hq | rfl
    · exact hcomposer.grows.has (hi.pieceComposer q hq)
    · exact hcomposer.has
  | deletePiece hhas hfree => exact hi.erasePiece hfree
  | createVenue hop hvalid hnew => exact hi.withVenues (.insert? hnew)
  | updateVenue hop hvalid hhas => exact hi.withVenues .put
  | deleteVenue hhas hfree => exact hi.eraseVenue
  | createProgramme hvalid hnew => exact hi.withProgrammes (.insert? hnew)
  | updateProgramme hvalid hhas hfree => exact hi.withProgrammes .put
  | replacePieces hhas hfree hpieces hshown => exact hi.replaceSlots hhas hpieces
  | deleteProgramme hhas hfree => exact hi.eraseProgramme
  | createEvent hvenue htitle hrefers hnew hmade =>
    exact (hi.withVenues hvenue.grows).insertEvent hnew hrefers
  | updateEvent hrow hdraft hvenue htitle hrefers hmade hshown =>
    exact (hi.withVenues hvenue.grows).putEvent hrefers
  | updateNotes hrow hmade =>
    have hrefers := hi.eventRefers _ (Table.mem_of_find? hrow)
    exact hi.putEvent hrefers
  | draft hrow hmade =>
    have hrefers := hi.eventRefers _ (Table.mem_of_find? hrow)
    exact hi.putEvent hrefers
  | archive hrow hmade =>
    have hrefers := hi.eventRefers _ (Table.mem_of_find? hrow)
    exact hi.putEvent hrefers
  | publish hrow htitle hcomplete hpieced hmade =>
    have hrefers := hi.eventRefers _ (Table.mem_of_find? hrow)
    exact hi.putEvent hrefers
  | deleteEvent hrow hdeletable => exact hi.eraseEvent
  | updateBiography hvariant => exact hi.withBiographies

/-- What is sound stays so as long as the event stays as it is. -/
theorem soundEvent_of_mem (h : order.Effect now db r db') (hs : db.Sound) {row : EventRow}
    (hrow : row ∈ db.events.rows) : db'.SoundEvent row := by
  have hevent := hs.events row hrow
  refine ⟨hevent.readable, hevent.title, hevent.complete, fun hpublished p hp => ?_⟩
  rw [(h.frozen hs.integrity (performed_of_mem hrow hpublished hp)).2]
  exact hevent.pieced hpublished p hp

/-- **Every effect preserves what is sound.** -/
theorem sound (h : order.Effect now db r db') (hs : db.Sound) : db'.Sound := by
  refine ⟨h.integrity hs.integrity, fun row hmem => ?_⟩
  have hkept : ∀ {row : EventRow}, row ∈ db.events.rows → db'.SoundEvent row :=
    fun hrow => h.soundEvent_of_mem hs hrow
  cases h with
  | createEvent hvenue htitle hrefers hnew hmade =>
    rcases Table.mem_insert? hnew hmem with hold | rfl
    · exact hkept hold
    · rw [(Table.new_of_insert? hnew).1]
      exact .unpublished EventRow.readable_ofEvent.withId htitle nofun
  | updateEvent hrow hdraft hvenue htitle hrefers hmade hshown =>
    rcases Table.mem_put hmem with hold | rfl
    · exact hkept hold
    · have hevent := hs.events _ (Table.mem_of_find? hrow)
      refine .unpublished hevent.readable.edited htitle fun hpublished => ?_
      cases hdraft.symm.trans hpublished
  | updateNotes hrow hmade =>
    rcases Table.mem_put hmem with hold | rfl
    · exact hkept hold
    · have hevent := hkept (Table.mem_of_find? hrow)
      refine ⟨hevent.readable.annotated, hevent.title, fun hpublished => ?_, hevent.pieced⟩
      have hcomplete := hevent.complete hpublished
      exact ⟨hcomplete.date, hcomplete.ticketLink, hcomplete.venue, hcomplete.programme⟩
  | draft hrow hmade =>
    rcases Table.mem_put hmem with hold | rfl
    · exact hkept hold
    · have hevent := hkept (Table.mem_of_find? hrow)
      exact .unpublished hevent.readable.moved hevent.title nofun
  | archive hrow hmade =>
    rcases Table.mem_put hmem with hold | rfl
    · exact hkept hold
    · have hevent := hkept (Table.mem_of_find? hrow)
      exact .unpublished hevent.readable.moved hevent.title nofun
  | publish hrow htitle hcomplete hpieced hmade =>
    rcases Table.mem_put hmem with hold | rfl
    · exact hkept hold
    · have hevent := hkept (Table.mem_of_find? hrow)
      refine ⟨hevent.readable.moved, htitle, fun _ => ?_, fun _ => hpieced⟩
      exact ⟨hcomplete.date, hcomplete.ticketLink, hcomplete.venue, hcomplete.programme⟩
  | deleteEvent hrow hdeletable => exact hkept (Table.mem_erase.1 hmem).1
  | deleteVenue hhas hfree =>
    obtain ⟨old, hold, rfl⟩ := Statement.mem_withoutReference.1 hmem
    -- a published event at the venue would forbid its removal
    exact (hkept hold).without fun hpublished hvenue => hfree ⟨old, hold, hpublished, hvenue⟩
  | deleteProgramme hhas hfree =>
    obtain ⟨old, hold, rfl⟩ := Statement.mem_withoutReference.1 hmem
    -- and so would one that performs the programme
    exact (hkept hold).without fun hpublished hprogramme =>
      hfree ⟨old, hold, hpublished, hprogramme⟩
  | _ => exact hkept hmem

end Http.Order.Effect

end Recital
