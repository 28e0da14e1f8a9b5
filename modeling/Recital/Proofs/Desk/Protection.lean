import Mathlib.Data.List.Perm.Basic
import Recital.Desk.Editing
import Recital.Proofs.Catalogue.Integrity

/-!
# What is counted protects

Entities are shown with the number of rows that depend on them, alone and in the list of all, and the same
rows protect them from removal.  Each of the three counts is a query of its own.

* `Protected` : the entities that are protected, each with its dependency and its removal.
* `Dependency.pieceProgrammes_eq` : a programme with a piece in several slots counts once.
* `Agrees` : what is shown, what is counted and what is removed agree.  `agrees` : they do so on every
  catalogue with integrity.
-/

set_option autoImplicit false

namespace Recital

open Step Statement

/-! ## Counts -/

theorem nodup_eraseDups (ids : List Int) : ids.eraseDups.Nodup := by
  cases ids with
  | nil => exact List.nodup_nil
  | cons id ids =>
    rw [List.eraseDups_cons]
    refine List.nodup_cons.2 ⟨fun hmem => ?_, nodup_eraseDups _⟩
    have hfilter := List.mem_filter.1 (List.mem_eraseDups.1 hmem)
    simp at hfilter
termination_by ids.length
decreasing_by exact Nat.lt_succ_of_le (List.length_filter_le _ _)

namespace Dependency

variable {db : Catalogue} {id : Int}

/-- **However many slots a piece fills, it counts once for every programme that has it.** -/
theorem pieceProgrammes_eq (h : db.Integrity) : pieceProgrammes.count db id =
    db.programmes.rows.countP fun p => db.slots.any fun s => s.programmeId = p.id ∧ s.pieceId = id := by
  have hnodup := (List.filter_sublist
    (p := fun p : Programme => db.slots.any fun s => s.programmeId = p.id ∧ s.pieceId = id)
    (l := db.programmes.rows)).map Keyed.id |>.nodup h.programmes.nodup
  rw [List.countP_eq_length_filter, ← List.length_map Keyed.id]
  refine List.Perm.length_eq ((List.perm_ext_iff_of_nodup (nodup_eraseDups _) hnodup).2 fun k => ?_)
  rw [List.mem_eraseDups, List.mem_map, List.mem_map]
  constructor
  · rintro ⟨s, hs, rfl⟩
    obtain ⟨hmem, hpiece⟩ := List.mem_filter.1 hs
    obtain ⟨p, hp, hid⟩ := Table.has_iff.1 (h.slotProgramme s hmem)
    refine ⟨p, List.mem_filter.2 ⟨hp, List.any_eq_true.2 ⟨s, hmem, ?_⟩⟩, hid⟩
    exact decide_eq_true ⟨hid.symm, of_decide_eq_true hpiece⟩
  · rintro ⟨p, hp, rfl⟩
    obtain ⟨s, hmem, hs⟩ := List.any_eq_true.1 (List.mem_filter.1 hp).2
    obtain ⟨hprogramme, hpiece⟩ := of_decide_eq_true hs
    exact ⟨s, List.mem_filter.2 ⟨hmem, decide_eq_true hpiece⟩, hprogramme⟩

theorem programmePieces_eq_countP :
    programmePieces.count db id = db.slots.countP fun s => s.programmeId = id :=
  List.countP_eq_length_filter.symm

end Dependency

/-! ## Protected entities -/

/-- Entities that are shown with the number of rows that depend on them, and that the same rows protect
from removal. -/
class Protected (α : Type) (δ : outParam Type) extends Detailed α δ where
  kind : Kind
  /-- What protects an entity. -/
  dependency : Dependency
  /-- The statement that removes a row. -/
  erase : Int → Step Unit
  /-- The use case that removes an entity. -/
  remove : Int → Plan Unit
  /-- The entity that is shown. -/
  shown : δ → α
  /-- The number of dependents that is shown with it. -/
  shownCount : δ → Nat

instance : Protected Composer Composer.Details where
  kind := .composer
  dependency := .composerPieces
  erase := deleteComposer
  remove := Desk.deleteComposer
  shown := Composer.Details.composer
  shownCount := Composer.Details.pieceCount

instance : Protected Piece Piece.Details where
  kind := .piece
  dependency := .pieceProgrammes
  erase := deletePiece
  remove := Desk.deletePiece
  shown := Piece.Details.piece
  shownCount := Piece.Details.programmeCount

instance : Protected Venue Venue.Details where
  kind := .venue
  dependency := .venuePublishedEvents
  erase := deleteVenue
  remove := Desk.deleteVenue
  shown := Venue.Details.venue
  shownCount := Venue.Details.eventCount

instance : Protected Programme Programme.Details where
  kind := .programme
  dependency := .programmePublishedEvents
  erase := deleteProgramme
  remove := Desk.deleteProgramme
  shown := Programme.Details.programme
  shownCount := Programme.Details.eventCount

open Protected (kind dependency shownCount)

/-- The queries of a kind of entities count alike, and nothing but the count can forbid a removal. -/
class LawfulProtected (α : Type) {δ : Type} [Protected α δ] : Prop where
  has_table : ∀ (db : Catalogue) (id : Int),
    db.has (kind α) id = (Stored.table (α := α) db).has id
  sound_table : ∀ {db : Catalogue}, db.Integrity → (Stored.table (α := α) db).Sound
  shown_details : ∀ (db : Catalogue) (row : α), Protected.shown (Detailed.details db row) = row
  shownCount_details : ∀ (db : Catalogue) (row : α),
    shownCount α (Detailed.details db row) = (dependency α).count db (Keyed.id row)
  listed_eq_details : ∀ (db : Catalogue) (row : α), Detailed.listed db row = Detailed.details db row
  remove_eq : ∀ id, Protected.remove α id = .step (atomically do
    lock (kind α) id
    requireFree (dependency α) id (.deletionForbidden (kind α))
    Protected.erase α id)
  meets_erase : ∀ {db : Catalogue} {id : Int}, db.has (kind α) id = true →
    (dependency α).count db id = 0 →
    (Protected.erase α id).Meets db (fun _ db' => db'.has (kind α) id = false) fun _ _ => False

instance : LawfulProtected Composer where
  has_table _ _ := rfl
  sound_table h := h.composers
  shown_details _ _ := rfl
  shownCount_details _ _ := rfl
  listed_eq_details _ _ := rfl
  remove_eq _ := rfl
  meets_erase {db id} hhas hcount := by
    have hfree := Dependency.composerPieces_eq_zero.1 hcount
    refine meets_deleteComposer.2 ⟨fun _ => ⟨fun _ => Table.has_erase_self, ?_⟩, ?_⟩
    · exact fun hno => hno hfree
    · exact fun hno => Bool.noConfusion (hhas.symm.trans hno)

instance : LawfulProtected Piece where
  has_table _ _ := rfl
  sound_table h := h.pieces
  shown_details _ _ := rfl
  shownCount_details _ _ := rfl
  listed_eq_details _ _ := rfl
  remove_eq _ := rfl
  meets_erase {db id} hhas hcount := by
    -- the distinct programmes of a piece are none exactly where no slot forbids its removal
    have hfree := Dependency.pieceProgrammes_eq_zero.1 hcount
    refine meets_deletePiece.2 ⟨fun _ => ⟨fun _ => Table.has_erase_self, ?_⟩, ?_⟩
    · exact fun hno => hno hfree
    · exact fun hno => Bool.noConfusion (hhas.symm.trans hno)

instance : LawfulProtected Venue where
  has_table _ _ := rfl
  sound_table h := h.venues
  shown_details _ _ := rfl
  shownCount_details _ _ := rfl
  listed_eq_details _ _ := rfl
  remove_eq _ := rfl
  meets_erase {db id} hhas _ := by
    refine meets_deleteVenue.2 ⟨fun _ => Table.has_erase_self, ?_⟩
    exact fun hno => Bool.noConfusion (hhas.symm.trans hno)

instance : LawfulProtected Programme where
  has_table _ _ := rfl
  sound_table h := h.programmes
  shown_details _ _ := rfl
  shownCount_details _ _ := rfl
  listed_eq_details _ _ := rfl
  remove_eq _ := rfl
  meets_erase {db id} hhas _ := by
    refine meets_deleteProgramme.2 ⟨fun _ => Table.has_erase_self, ?_⟩
    exact fun hno => Bool.noConfusion (hhas.symm.trans hno)

/-! ## Agreement -/

/-- What is shown of the entities of a kind, what is counted and what is removed agree. -/
structure Agrees (α : Type) {δ : Type} [Protected α δ] (db : Catalogue) : Prop where
  missing : ∀ id, db.has (kind α) id = false →
    (Listing.detailsOf α id).run db = (.error .notFound, db)
  /-- The count of an entity is the one that is asked for by its dependency. -/
  found : ∀ id, db.has (kind α) id = true → ∃ d, (Listing.detailsOf α id).run db = (.ok d, db) ∧
    (fetch id : Step α).run db = (.ok (Protected.shown d), db) ∧
    (count (dependency α) id).run db = (.ok (shownCount α d), db)
  /-- Every row is listed once, by its id and as it is shown alone. -/
  list : ∃ ds, (Listing.allDetails α).run db = (.ok ds, db) ∧
    ds.map Protected.shown = (Stored.table (α := α) db).rows ∧
    (ds.Pairwise fun a b => Keyed.id (Protected.shown a : α) < Keyed.id (Protected.shown b : α)) ∧
    ∀ d ∈ ds, (Listing.detailsOf α (Keyed.id (Protected.shown d : α))).run db = (.ok d, db)
  removeMissing : ∀ id, db.has (kind α) id = false →
    (Protected.remove α id).run.run db = (.error .notFound, db)
  /-- An entity is removed exactly if the count that is shown is zero. -/
  remove : ∀ id d, (Listing.detailsOf α id).run db = (.ok d, db) →
    (0 < shownCount α d →
      (Protected.remove α id).run.run db = (.error (.deletionForbidden (kind α)), db)) ∧
    (shownCount α d = 0 → ∃ db', (Protected.remove α id).run.run db = (.ok (), db') ∧
      db'.has (kind α) id = false)

section Agreement

variable {α δ : Type} [Protected α δ] {db : Catalogue} {id : Int} {row : α}

theorem detailsOf_run_of_find? (h : (Stored.table db).find? id = some row) :
    (Listing.detailsOf α id).run db = (.ok (Detailed.details db row), db) := by
  simp only [Listing.detailsOf, query_run, h]

theorem detailsOf_run_of_none (h : (Stored.table (α := α) db).find? id = none) :
    (Listing.detailsOf α id).run db = (.error .notFound, db) := by
  simp only [Listing.detailsOf, query_run, h]

/-- Only a row that is there has details, and they are its own. -/
theorem row_of_detailsOf {d : δ} (h : (Listing.detailsOf α id).run db = (.ok d, db)) :
    ∃ row : α, (Stored.table db).find? id = some row ∧ d = Detailed.details db row := by
  cases hrow : (Stored.table (α := α) db).find? id with
  | none =>
    rw [detailsOf_run_of_none hrow] at h
    cases h
  | some row =>
    rw [detailsOf_run_of_find? hrow] at h
    cases h
    exact ⟨row, rfl, rfl⟩

variable [LawfulProtected α]

theorem find?_eq_none_of_has (h : db.has (kind α) id = false) :
    (Stored.table (α := α) db).find? id = none := by
  rw [LawfulProtected.has_table] at h
  exact Table.find?_eq_none_of_has h

theorem remove_run_of_missing (h : db.has (kind α) id = false) :
    (Protected.remove α id).run.run db = (.error .notFound, db) := by
  have hmeets : (Protected.remove α id).run.Meets db (fun _ _ => False)
      fun e db' => e = .notFound ∧ db' = db := by
    rw [LawfulProtected.remove_eq]
    exact meets_guarded_iff.2 ⟨fun hno => Bool.noConfusion (h.symm.trans hno), fun _ => ⟨rfl, rfl⟩⟩
  obtain ⟨_, _, hrun, rfl, rfl⟩ := hmeets.run_error
  exact hrun

theorem remove_run_of_blocked (h : db.has (kind α) id = true) (hcount : 0 < (dependency α).count db id) :
    (Protected.remove α id).run.run db = (.error (.deletionForbidden (kind α)), db) := by
  have hmeets : (Protected.remove α id).run.Meets db (fun _ _ => False)
      fun e db' => e = .deletionForbidden (kind α) ∧ db' = db := by
    rw [LawfulProtected.remove_eq]
    refine meets_guarded_iff.2 ⟨fun _ => ⟨fun hno => ?_, fun _ => ⟨rfl, rfl⟩⟩, fun hno => ?_⟩
    · exact absurd hno (Nat.ne_of_gt hcount)
    · exact Bool.noConfusion (h.symm.trans hno)
  obtain ⟨_, _, hrun, rfl, rfl⟩ := hmeets.run_error
  exact hrun

theorem remove_run_of_free (h : db.has (kind α) id = true) (hcount : (dependency α).count db id = 0) :
    ∃ db', (Protected.remove α id).run.run db = (.ok (), db') ∧ db'.has (kind α) id = false := by
  have hmeets : (Protected.remove α id).run.Meets db (fun _ db' => db'.has (kind α) id = false)
      fun _ _ => False := by
    rw [LawfulProtected.remove_eq]
    refine meets_guarded_iff.2 ⟨fun _ => ⟨fun _ => ?_, fun hno => hno hcount⟩, fun hno => ?_⟩
    · exact LawfulProtected.meets_erase h hcount
    · exact Bool.noConfusion (h.symm.trans hno)
  obtain ⟨_, db', hrun, hgone⟩ := hmeets.run_ok
  exact ⟨db', hrun, hgone⟩

/-- **On every catalogue with integrity, what is shown, counted and removed agree.** -/
theorem agrees (h : db.Integrity) : Agrees α db where
  missing id hhas := detailsOf_run_of_none (find?_eq_none_of_has hhas)
  found id hhas := by
    rw [LawfulProtected.has_table] at hhas
    obtain ⟨row, hrow⟩ := Table.find?_of_has hhas
    refine ⟨_, detailsOf_run_of_find? hrow, ?_, ?_⟩
    · rw [LawfulProtected.shown_details]
      simp only [fetch, query_run, hrow]
    · rw [LawfulProtected.shownCount_details, Table.id_of_find? hrow]
      rfl
  list := by
    have hsound : (Stored.table (α := α) db).Sound := LawfulProtected.sound_table h
    have hlisted : Detailed.listed db = (Detailed.details db : α → δ) :=
      funext (LawfulProtected.listed_eq_details db)
    refine ⟨(Stored.table (α := α) db).rows.map (Detailed.details db), ?_, ?_, ?_, ?_⟩
    · rw [Listing.allDetails, query_run, hlisted]
    · rw [List.map_map]
      exact (List.map_congr_left fun row _ => LawfulProtected.shown_details db row).trans
        (List.map_id _)
    · simp only [List.pairwise_map, LawfulProtected.shown_details]
      exact hsound.ascending
    · intro d hd
      obtain ⟨row, hrow, rfl⟩ := List.mem_map.1 hd
      rw [LawfulProtected.shown_details]
      exact detailsOf_run_of_find? (hsound.find?_of_mem hrow)
  removeMissing id hhas := remove_run_of_missing hhas
  remove id d hd := by
    obtain ⟨row, hrow, rfl⟩ := row_of_detailsOf hd
    obtain rfl := Table.id_of_find? hrow
    have hhas : db.has (kind α) (Keyed.id row) = true := by
      rw [LawfulProtected.has_table]
      exact Table.has_of_find? hrow
    rw [LawfulProtected.shownCount_details]
    exact ⟨remove_run_of_blocked hhas, remove_run_of_free hhas⟩

end Agreement

end Recital
