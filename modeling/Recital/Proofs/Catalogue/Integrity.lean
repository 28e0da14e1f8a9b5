import Recital.Proofs.Catalogue.EventRow

/-!
# Integrity of the catalogue

* `Catalogue.Integrity` : every reference names a row, the places of a programme are positive and
  apart, and the tables are sound.
* `Integrity.fresh`, `Integrity.seeded` : a new catalogue, and one that has been opened again.
* `Integrity.withComposers`, … : rows are added or replaced.
* `Integrity.eraseComposer`, … : a row is removed, with what the schema removes along with it.
* `Integrity.replaceSlots` : the slots of a programme are replaced.
-/

set_option autoImplicit false

namespace Recital

/-! ## Numbered pieces -/

section Numbered

variable {pieceIds : List Int} {first : Int} {entry : Int × Int}

/-- A numbered piece is one of the list, and its number is not before the first. -/
theorem mem_sequencedFrom (h : entry ∈ sequencedFrom first pieceIds) :
    first ≤ entry.1 ∧ entry.2 ∈ pieceIds := by
  induction pieceIds generalizing first with
  | nil => cases h
  | cons pieceId pieceIds ih =>
    rcases List.mem_cons.1 h with rfl | h
    · exact ⟨Int.le_refl _, List.mem_cons_self ..⟩
    · obtain ⟨hle, hmem⟩ := ih h
      exact ⟨by omega, List.mem_cons_of_mem _ hmem⟩

theorem ascending_sequencedFrom :
    (sequencedFrom first pieceIds).Pairwise fun a b => a.1 < b.1 := by
  induction pieceIds generalizing first with
  | nil => exact List.Pairwise.nil
  | cons pieceId pieceIds ih =>
    refine List.Pairwise.cons (fun entry h => ?_) ih
    have hle := (mem_sequencedFrom h).1
    simp only
    omega

end Numbered

/-- What a reference of an event names. -/
def EventRow.Reference.kind : EventRow.Reference → Kind
  | .venue => .venue
  | .programme => .programme

namespace Catalogue

/-- Two slots are at different places. -/
def Apart (s t : Slot) : Prop :=
  s.programmeId = t.programmeId → s.sequence ≠ t.sequence

/-- The references of a row of an event name rows. -/
def Refers (db : Catalogue) (row : EventRow) : Prop :=
  db.refers .venue row.venueId = true ∧ db.refers .programme row.programmeId = true

/-- Every reference names a row, the places of a programme are positive and apart, and the tables are
sound. -/
structure Integrity (db : Catalogue) : Prop where
  composers : db.composers.Sound
  pieces : db.pieces.Sound
  programmes : db.programmes.Sound
  venues : db.venues.Sound
  events : db.events.Sound
  pieceComposer : ∀ p ∈ db.pieces.rows, db.has .composer p.composerId = true
  slotProgramme : ∀ s ∈ db.slots, db.has .programme s.programmeId = true
  slotPiece : ∀ s ∈ db.slots, db.has .piece s.pieceId = true
  slotPositive : ∀ s ∈ db.slots, 0 < s.sequence
  slotsApart : db.slots.Pairwise Apart
  eventRefers : ∀ row ∈ db.events.rows, db.Refers row

variable {db db' : Catalogue} {id : Int} {kind : Kind} {reference : Option Int} {row : EventRow}

/-! ## References -/

theorem refers_iff : db.refers kind reference = true ↔
    ∀ id, reference = some id → db.has kind id = true := by
  cases reference <;> simp [refers]

theorem refers_of_has (h : ∀ k, db.has kind k = true → db'.has kind k = true)
    (hr : db.refers kind reference = true) : db'.refers kind reference = true :=
  refers_iff.2 fun id hid => h id (refers_iff.1 hr id hid)

theorem refers_row_iff : db.Refers row ↔ ∀ r, db.refers r.kind (row.reference r) = true := by
  refine ⟨fun h r => ?_, fun h => ⟨h .venue, h .programme⟩⟩
  cases r with
  | venue => exact h.1
  | programme => exact h.2

/-- A row that loses its reference to what is removed refers to rows that are left. -/
theorem Refers.without {r : EventRow.Reference} (h : db.Refers row)
    (hkept : ∀ s k, db.has s.kind k = true → (s = r → k ≠ id) → db'.has s.kind k = true) :
    db'.Refers (row.without r id) := by
  refine refers_row_iff.2 fun s => refers_iff.2 fun k hk => ?_
  rw [EventRow.reference_without] at hk
  split at hk
  · cases hk
  rename_i hleft
  refine hkept s k (refers_iff.1 (refers_row_iff.1 h s) k hk) ?_
  rintro rfl rfl
  exact hleft ⟨rfl, hk⟩

theorem refers_stored : Stored.refers db row = true ↔ db.Refers row :=
  Bool.and_eq_true_iff

/-! ## Slots -/

theorem mem_slotsFor {slot : Slot} {pieceIds : List Int}
    (hs : slot ∈ slotsFor id (sequenced pieceIds)) :
    slot.programmeId = id ∧ slot.pieceId ∈ pieceIds ∧ 0 < slot.sequence := by
  obtain ⟨entry, hentry, rfl⟩ := List.mem_map.1 hs
  obtain ⟨hle, hmem⟩ := mem_sequencedFrom hentry
  refine ⟨rfl, hmem, ?_⟩
  simp only
  omega

/-- A slot that stays is one of another programme. -/
theorem mem_replacedSlots {slot : Slot} {pieceIds : List Int} :
    slot ∈ db.replacedSlots id pieceIds ↔
      (slot ∈ db.slots ∧ slot.programmeId ≠ id) ∨ slot ∈ slotsFor id (sequenced pieceIds) := by
  simp [replacedSlots]

namespace Integrity

theorem fresh : fresh.Integrity := by
  refine ⟨Table.Sound.empty, Table.Sound.empty, Table.Sound.empty, Table.Sound.empty,
    Table.Sound.empty, ?_, ?_, ?_, ?_, List.Pairwise.nil, ?_⟩ <;> (intro _ h; cases h)

theorem withBiographies (h : db.Integrity) {b : Biographies} :
    { db with biographies := b }.Integrity :=
  ⟨h.composers, h.pieces, h.programmes, h.venues, h.events, h.pieceComposer, h.slotProgramme,
    h.slotPiece, h.slotPositive, h.slotsApart, h.eventRefers⟩

theorem seeded (h : db.Integrity) : db.seeded.Integrity :=
  h.withBiographies

/-! ## Rows that are added or replaced -/

theorem withComposers (h : db.Integrity) {t : Table Composer} (ht : db.composers.Grows t) :
    { db with composers := t }.Integrity :=
  { h with
    composers := ht.sound h.composers
    pieceComposer := fun p hp => ht.has (h.pieceComposer p hp) }

theorem withPieces (h : db.Integrity) {t : Table Piece} (ht : db.pieces.Grows t)
    (hrefers : ∀ p ∈ t.rows, db.has .composer p.composerId = true) :
    { db with pieces := t }.Integrity :=
  { h with
    pieces := ht.sound h.pieces
    pieceComposer := hrefers
    slotPiece := fun s hs => ht.has (h.slotPiece s hs) }

theorem withProgrammes (h : db.Integrity) {t : Table Programme} (ht : db.programmes.Grows t) :
    { db with programmes := t }.Integrity :=
  { h with
    programmes := ht.sound h.programmes
    slotProgramme := fun s hs => ht.has (h.slotProgramme s hs)
    eventRefers := fun row hrow =>
      ⟨(h.eventRefers row hrow).1, refers_of_has (fun _ => ht.has) (h.eventRefers row hrow).2⟩ }

theorem withVenues (h : db.Integrity) {t : Table Venue} (ht : db.venues.Grows t) :
    { db with venues := t }.Integrity :=
  { h with
    venues := ht.sound h.venues
    eventRefers := fun row hrow =>
      ⟨refers_of_has (fun _ => ht.has) (h.eventRefers row hrow).1, (h.eventRefers row hrow).2⟩ }

theorem withEvents (h : db.Integrity) {t : Table EventRow} (ht : t.Sound)
    (hrefers : ∀ row ∈ t.rows, db.Refers row) : { db with events := t }.Integrity :=
  { h with
    events := ht
    eventRefers := hrefers }

theorem insertEvent (h : db.Integrity) {new : EventRow} {t : Table EventRow}
    (hi : db.events.insert? row = some (new, t)) (hrefers : db.Refers row) :
    { db with events := t }.Integrity := by
  refine h.withEvents (h.events.insert? hi) fun r hr => ?_
  rcases Table.mem_insert? hi hr with hr | rfl
  · exact h.eventRefers r hr
  · rw [(Table.new_of_insert? hi).1]
    exact hrefers

theorem putEvent (h : db.Integrity) (hrefers : db.Refers row) :
    { db with events := db.events.put row }.Integrity := by
  refine h.withEvents h.events.put fun r hr => ?_
  rcases Table.mem_put hr with hr | rfl
  · exact h.eventRefers r hr
  · exact hrefers

/-! ## Rows that are removed -/

theorem eraseComposer (h : db.Integrity) (hfree : ∀ p ∈ db.pieces.rows, p.composerId ≠ id) :
    { db with composers := db.composers.erase id }.Integrity :=
  { h with
    composers := h.composers.erase
    pieceComposer := fun p hp => Table.has_erase.2 ⟨h.pieceComposer p hp, hfree p hp⟩ }

theorem erasePiece (h : db.Integrity) (hfree : ∀ s ∈ db.slots, s.pieceId ≠ id) :
    { db with pieces := db.pieces.erase id }.Integrity :=
  { h with
    pieces := h.pieces.erase
    pieceComposer := fun p hp => h.pieceComposer p (Table.mem_erase.1 hp).1
    slotPiece := fun s hs => Table.has_erase.2 ⟨h.slotPiece s hs, hfree s hs⟩ }

theorem eraseEvent (h : db.Integrity) : { db with events := db.events.erase id }.Integrity :=
  h.withEvents h.events.erase fun row hrow => h.eventRefers row (Table.mem_erase.1 hrow).1

/-- Once its events have forgotten what is removed, they refer to rows that are left. -/
theorem refers_withoutReference (h : db.Integrity) {r : EventRow.Reference}
    (hkept : ∀ s k, db.has s.kind k = true → (s = r → k ≠ id) → db'.has s.kind k = true) :
    ∀ row ∈ (Statement.withoutReference r id db.events).rows, db'.Refers row := by
  intro row hrow
  obtain ⟨old, hold, rfl⟩ := Statement.mem_withoutReference.1 hrow
  exact (h.eventRefers old hold).without hkept

/-- The slots of a removed programme go, and no event refers to it any more. -/
theorem eraseProgramme (h : db.Integrity) :
    { db with
      programmes := db.programmes.erase id
      slots := db.slots.filter fun s => s.programmeId ≠ id
      events := Statement.withoutReference .programme id db.events }.Integrity := by
  have hslots : ∀ s ∈ db.slots.filter (fun s => s.programmeId ≠ id),
      s ∈ db.slots ∧ s.programmeId ≠ id := by
    intro s hs
    simpa using hs
  refine { h with
    programmes := h.programmes.erase
    events := Statement.sound_withoutReference h.events
    slotProgramme := ?_
    slotPiece := fun s hs => h.slotPiece s (hslots s hs).1
    slotPositive := fun s hs => h.slotPositive s (hslots s hs).1
    slotsApart := h.slotsApart.filter _
    eventRefers := ?_ }
  · intro s hs
    obtain ⟨hmem, hne⟩ := hslots s hs
    exact Table.has_erase.2 ⟨h.slotProgramme s hmem, hne⟩
  · refine h.refers_withoutReference fun s k hhas hne => ?_
    cases s with
    | venue => exact hhas
    | programme => exact Table.has_erase.2 ⟨hhas, hne rfl⟩

/-- No event refers to a removed venue any more. -/
theorem eraseVenue (h : db.Integrity) :
    { db with
      venues := db.venues.erase id
      events := Statement.withoutReference .venue id db.events }.Integrity := by
  refine { h with
    venues := h.venues.erase
    events := Statement.sound_withoutReference h.events
    eventRefers := h.refers_withoutReference fun s k hhas hne => ?_ }
  cases s with
  | venue => exact Table.has_erase.2 ⟨hhas, hne rfl⟩
  | programme => exact hhas

/-! ## Slots that are replaced -/

/-- The slots of a programme give way to those of listed pieces. -/
theorem replaceSlots (h : db.Integrity) {pieceIds : List Int}
    (hprogramme : db.has .programme id = true)
    (hpieces : ∀ pieceId ∈ pieceIds, db.has .piece pieceId = true) :
    { db with slots := db.replacedSlots id pieceIds }.Integrity := by
  refine { h with
    slotProgramme := ?_
    slotPiece := ?_
    slotPositive := ?_
    slotsApart := ?_ }
  · intro s hs
    rcases mem_replacedSlots.1 hs with hs | hs
    · exact h.slotProgramme s hs.1
    · rw [(mem_slotsFor hs).1]
      exact hprogramme
  · intro s hs
    rcases mem_replacedSlots.1 hs with hs | hs
    · exact h.slotPiece s hs.1
    · exact hpieces _ (mem_slotsFor hs).2.1
  · intro s hs
    rcases mem_replacedSlots.1 hs with hs | hs
    · exact h.slotPositive s hs.1
    · exact (mem_slotsFor hs).2.2
  · refine List.pairwise_append.2 ⟨h.slotsApart.filter _, ?_, ?_⟩
    · refine List.pairwise_map.2 (ascending_sequencedFrom.imp fun hlt _ => ?_)
      exact Int.ne_of_lt hlt
    · intro s hs t ht hst
      have hne : s.programmeId ≠ id := by simpa using (List.mem_filter.1 hs).2
      exact absurd (hst.trans (mem_slotsFor ht).1) hne

end Integrity

end Catalogue

end Recital
