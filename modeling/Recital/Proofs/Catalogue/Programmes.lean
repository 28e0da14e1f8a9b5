import Mathlib.Data.List.Forall2
import Mathlib.Data.List.Nodup
import Recital.Proofs.Catalogue.Listing
import Recital.Proofs.Http.Soundness

/-!
# Programmes are shown whole

A programme is read by joining its slots with their pieces and these with their composers.

* `Catalogue.Filled` : the slots of every programme are those that some list of pieces fills.
  `Effect.filled` : every order keeps this.
* `Programme.Entry.Shows` : an entry shows a slot, the row of its piece and that of the composer.
* `Integrity.joined_eq` : joined on ids, a slot gives one entry.  `piecesOf_run` : and so a programme gives
  one for each slot, in order.
-/

set_option autoImplicit false

namespace Recital

/-! ## Places -/

theorem length_sequencedFrom (first : Int) (pieceIds : List Int) :
    (sequencedFrom first pieceIds).length = pieceIds.length := by
  rw [← List.length_map Prod.snd, map_snd_sequencedFrom]

/-- The numbers of listed pieces follow one another from the first on. -/
theorem map_fst_sequencedFrom (first : Int) (pieceIds : List Int) :
    (sequencedFrom first pieceIds).map Prod.fst =
      (List.range pieceIds.length).map fun k : Nat => first + k := by
  induction pieceIds generalizing first with
  | nil => rfl
  | cons pieceId pieceIds ih =>
    rw [sequencedFrom, List.map_cons, ih, List.length_cons, List.range_succ_eq_map, List.map_cons,
      List.map_map]
    congr 1
    · simp
    · refine List.map_congr_left fun k _ => ?_
      simp only [Function.comp_apply]
      omega

namespace Catalogue

variable {db : Catalogue} {id p : Int} {pieceIds : List Int}

/-- The slots of every programme are those that some list of pieces fills. -/
def Filled (db : Catalogue) : Prop :=
  ∀ p, ∃ pieceIds, db.slotsOf p = slotsFor p (sequenced pieceIds)

theorem length_slotsFor : (slotsFor id (sequenced pieceIds)).length = pieceIds.length := by
  rw [slotsFor, List.length_map, sequenced, length_sequencedFrom]

theorem map_sequence_slotsFor : (slotsFor id (sequenced pieceIds)).map Slot.sequence =
    (List.range pieceIds.length).map fun k : Nat => 1 + (k : Int) := by
  rw [slotsFor, List.map_map, ← map_fst_sequencedFrom]
  rfl

/-- They hold the listed pieces under their numbers. -/
theorem map_slotsFor (entries : List (Int × Int)) :
    (slotsFor id entries).map (fun slot => (slot.sequence, slot.pieceId)) = entries := by
  rw [slotsFor, List.map_map]
  exact List.map_id entries

/-- The slots of a programme carry the numbers from one on, each of them once. -/
theorem Filled.map_sequence (h : db.Filled) (p : Int) : (db.slotsOf p).map Slot.sequence =
    (List.range (db.slotsOf p).length).map fun k : Nat => 1 + (k : Int) := by
  obtain ⟨pieceIds, hslots⟩ := h p
  rw [hslots, map_sequence_slotsFor, length_slotsFor]

/-- They stand in the order of these numbers. -/
theorem Filled.orderedSlots_eq (h : db.Filled) (p : Int) :
    Listing.orderedSlots db p = db.slotsOf p := by
  obtain ⟨pieceIds, hslots⟩ := h p
  refine List.mergeSort_of_pairwise ?_
  rw [hslots]
  refine List.pairwise_map.2 (ascending_sequencedFrom.imp fun hlt => ?_)
  exact decide_eq_true (Int.le_of_lt hlt)

theorem Filled.fresh : fresh.Filled :=
  fun _ => ⟨[], rfl⟩

theorem slotsOf_replacedSlots_self :
    { db with slots := db.replacedSlots id pieceIds }.slotsOf id =
      slotsFor id (sequenced pieceIds) := by
  have hold : (db.slots.filter fun s => s.programmeId ≠ id).filter (fun s => s.programmeId = id) =
      [] := by
    simp [List.filter_filter]
  have hnew : (slotsFor id (sequenced pieceIds)).filter (fun s => s.programmeId = id) =
      slotsFor id (sequenced pieceIds) :=
    List.filter_eq_self.2 fun s hs => decide_eq_true (mem_slotsFor hs).1
  unfold slotsOf replacedSlots
  rw [List.filter_append, hold, hnew, List.nil_append]

theorem Filled.replaceSlots (h : db.Filled) :
    { db with slots := db.replacedSlots id pieceIds }.Filled := by
  intro p
  by_cases hp : p = id
  · subst hp
    exact ⟨pieceIds, slotsOf_replacedSlots_self⟩
  · rw [slotsOf_replacedSlots_of_ne hp]
    exact h p

end Catalogue

open Catalogue in
/-- **Every order leaves the slots of every programme numbered without a gap.** -/
theorem Http.Order.Effect.filled {now : Instant} {db db' : Catalogue} {order : Order} {r : Response}
    (h : order.Effect now db r db') (hf : db.Filled) : db'.Filled := by
  intro p
  cases h with
  | replacePieces hhas hfree hpieces hshown => exact hf.replaceSlots p
  | @deleteProgramme id hhas hfree =>
    by_cases hp : p = id
    · subst hp
      refine ⟨[], List.filter_eq_nil_iff.2 fun s hs => ?_⟩
      simpa using (List.mem_filter.1 hs).2
    · obtain ⟨pieceIds, hslots⟩ := hf p
      have hkept : { db with slots := db.slots.filter fun s => s.programmeId ≠ id }.slotsOf p =
          db.slotsOf p := slotsOf_filter_of_ne hp
      exact ⟨pieceIds, hkept.trans hslots⟩
  | _ => exact hf p

/-! ## Joins -/

/-- At most one row of a sound table has an id. -/
theorem Table.Sound.filter_eq_singleton {α : Type} [Keyed α] {t : Table α} {id : Int} {row : α}
    (h : t.Sound) (hrow : t.find? id = some row) :
    t.rows.filter (fun r => Keyed.id r = id) = [row] := by
  obtain rfl := id_of_find? hrow
  have hnodup : (t.rows.filter fun r => Keyed.id r = Keyed.id row).Nodup :=
    (List.Nodup.of_map Keyed.id h.nodup).filter _
  refine List.perm_singleton.1 ((List.perm_ext_iff_of_nodup hnodup (List.nodup_singleton row)).2 ?_)
  intro r
  rw [List.mem_filter, List.mem_singleton, decide_eq_true_eq]
  constructor
  · rintro ⟨hr, hid⟩
    have hfind := h.find?_of_mem hr
    rw [hid, hrow] at hfind
    exact (Option.some.inj hfind).symm
  · rintro rfl
    exact ⟨mem_of_find? hrow, rfl⟩

/-- The entry shows the slot, with the row of its piece and that of the composer of the piece. -/
structure Programme.Entry.Shows (db : Catalogue) (slot : Slot) (entry : Entry) : Prop where
  sequence : entry.sequence = slot.sequence
  piece : db.pieces.find? slot.pieceId = some entry.piece
  composer : db.composers.find? entry.piece.composerId = some entry.composer

namespace Catalogue

variable {db : Catalogue} {slot : Slot}

/-- **A slot gives one entry**: its piece and the composer of the piece exist, and once only. -/
theorem Integrity.joined_eq (h : db.Integrity) (hslot : slot ∈ db.slots) :
    ∃ entry, entry.Shows db slot ∧ Listing.joined db slot = [entry] := by
  obtain ⟨piece, hpiece⟩ := Table.find?_of_has (h.slotPiece slot hslot)
  obtain ⟨composer, hcomposer⟩ :=
    Table.find?_of_has (h.pieceComposer piece (Table.mem_of_find? hpiece))
  have hpieces : db.pieces.rows.filter (fun p => p.id = slot.pieceId) = [piece] :=
    h.pieces.filter_eq_singleton hpiece
  have hcomposers : db.composers.rows.filter (fun c => c.id = piece.composerId) = [composer] :=
    h.composers.filter_eq_singleton hcomposer
  refine ⟨⟨piece, composer, slot.sequence⟩, ⟨rfl, hpiece, hcomposer⟩, ?_⟩
  rw [Listing.joined, hpieces, List.flatMap_singleton, hcomposers, List.map_singleton]

/-- Slots give as many entries, each showing its own slot. -/
theorem Integrity.flatMap_joined (h : db.Integrity) {slots : List Slot}
    (hslots : ∀ slot ∈ slots, slot ∈ db.slots) :
    List.Forall₂ (fun slot entry => Programme.Entry.Shows db slot entry) slots
      (slots.flatMap (Listing.joined db)) := by
  induction slots with
  | nil => exact .nil
  | cons slot slots ih =>
    obtain ⟨entry, hshows, hjoined⟩ := h.joined_eq (hslots slot (List.mem_cons_self ..))
    rw [List.flatMap_cons, hjoined]
    exact .cons hshows (ih fun s hs => hslots s (List.mem_cons_of_mem _ hs))

end Catalogue

/-- **The pieces of a programme are read in order, one for each slot.** -/
theorem Listing.piecesOf_run {db : Catalogue} (h : db.Integrity) (hf : db.Filled) (p : Int) :
    ∃ entries, (piecesOf p).run db = (.ok entries, db) ∧
      List.Forall₂ (fun slot entry => Programme.Entry.Shows db slot entry) (db.slotsOf p) entries := by
  refine ⟨(db.slotsOf p).flatMap (joined db), ?_, h.flatMap_joined fun s hs => ?_⟩
  · rw [piecesOf, Step.query_run, hf.orderedSlots_eq]
  · exact (List.mem_filter.1 hs).1

end Recital
