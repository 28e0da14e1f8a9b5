import Recital.Proofs.Catalogue.Listing
import Recital.Proofs.Http.Effect

/-!
# Editing has its effects

Every use case on composers, pieces, venues, programmes and biographies has the effect of its order where
it succeeds.  Where it fails, the catalogue is left as it was, and the fault is excused.

* `meets_creation`, `meets_guarded` : the forms that several use cases share.
* `meets_createComposer`, … , `meets_updateBiography` : the use cases.
-/

set_option autoImplicit false

namespace Recital.Http

open Step Statement

variable {now : Instant} {db : Catalogue} {id : Int}

/-! ## Shared forms -/

section Shared

variable {α : Type} [Stored α] {row : α} {check : Except Violation Unit} {Q : α → Catalogue → Prop}

/-- A row without references is added if it is valid. -/
theorem meets_creation (hrefers : Stored.refers db row = true)
    (hQ : check = .ok () → ∀ new t, (Stored.table db).insert? row = some (new, t) →
      Q new (Stored.setTable t db))
    (hfull : Text.maxInt64 ≤ (Stored.table (α := α) db).lastId → db.Excuses .database) :
    (Plan.after (valid check) (insert row)).run.Meets db Q db.Refused := by
  refine Plan.meets_after.2 ⟨fun hvalid => ?_, fun e he => .rule (isBusinessRule_of_valid he)⟩
  refine meets_insert.2 ⟨fun _ => ⟨?_, fun hnone => ?_⟩, fun hno => ?_⟩
  · exact hQ (valid_eq_ok hvalid)
  · exact ⟨rfl, hfull (Table.lastId_of_insert?_eq_none hnone)⟩
  · cases hrefers.symm.trans hno

/-- A step that runs only where a row exists and nothing depends on it. -/
theorem meets_guarded {β : Type} {kind : Kind} {dependency : Dependency} {blocked : Fault}
    {step : Step β} {Q : β → Catalogue → Prop} (hblocked : blocked.isBusinessRule = true)
    (h : db.has kind id = true → dependency.count db id = 0 →
      step.Meets db Q fun e _ => db.Excuses e) :
    (atomically do
      lock kind id
      requireFree dependency id blocked
      step).Meets db Q db.Refused := by
  refine meets_guarded_iff.2 ⟨fun hhas => ⟨fun hcount => ?_, fun _ => .rule hblocked⟩, fun _ => .rule rfl⟩
  exact (h hhas hcount).mono (fun _ _ hq => hq) fun _ _ he => ⟨rfl, he⟩

end Shared

/-! ## Composers -/

section Composers

variable {c : Composer}

theorem meets_createComposer :
    (Desk.createComposer c).run.Meets db
      (fun new db' => Order.Effect now db (.composer (.create c)) (.created none new) db')
      db.Refused := by
  refine meets_creation rfl ?_ fun hfull => Or.inr ⟨.composer, hfull⟩
  intro hvalid new t hnew
  exact .createComposer hvalid hnew

theorem meets_updateComposer :
    (Desk.updateComposer id c).run.Meets db
      (fun new db' => Order.Effect now db (.composer (.update id c)) (.shown new) db')
      db.Refused := by
  refine Plan.meets_after.2 ⟨fun hvalid => ?_, fun e he => .rule (isBusinessRule_of_valid he)⟩
  refine meets_update.2 ⟨fun hhas => ⟨fun _ => ?_, fun hno => nomatch hno⟩, fun _ => .rule rfl⟩
  exact .updateComposer (valid_eq_ok hvalid) hhas

theorem meets_deleteComposer :
    (Desk.deleteComposer id).run.Meets db
      (fun _ db' => Order.Effect now db (.composer (.delete id)) .noContent db') db.Refused := by
  refine meets_guarded rfl fun hhas hcount => ?_
  have hfree := Dependency.composerPieces_eq_zero.1 hcount
  refine Statement.meets_deleteComposer.2 ⟨fun _ => ⟨fun _ => ?_, fun hno => ?_⟩, fun _ => ?_⟩
  · exact .deleteComposer hhas hfree
  · exact absurd hfree hno
  · exact Or.inl rfl

end Composers

/-! ## Pieces -/

section Pieces

variable {command : Desk.PieceCommand}

/-- The composer of a command is resolved, and then its piece. -/
theorem meets_resolvePiece {f : Composer → Piece} {Q : Piece → Catalogue → Prop}
    (h : ∀ composer cs, Resolved db command.composer composer cs → ∀ piece ps,
      Resolved { db with composers := cs } { command.piece with data := f composer } piece ps →
      Q piece { db with composers := cs, pieces := ps }) :
    (do let composer ← resolve command.composer
        resolve { command.piece with data := f composer }).Meets db Q fun e _ => db.Excuses e := by
  rw [meets_bind]
  refine meets_resolve.mono ?_ ?_
  · rintro composer db' ⟨cs, hcomposer, rfl⟩
    refine meets_resolve.mono ?_ ?_
    · rintro piece db' ⟨ps, hpiece, rfl⟩
      exact h composer cs hcomposer piece ps hpiece
    · rintro e db' ⟨-, he⟩
      exact .of_lastId .piece he
  · rintro e db' ⟨-, he⟩
    exact .of_lastId .composer he

theorem meets_createPiece :
    (Desk.createPiece command).run.Meets db
      (fun new db' => Order.Effect now db (.piece (.create command))
        (.created command.piece.tempId new) db')
      db.Refused := by
  refine Plan.meets_after.2 ⟨fun hensure => ?_, fun e he => .rule (isBusinessRule_of_ensure he)⟩
  have hcreate := operation_of_ensure hensure
  refine meets_unit (meets_resolvePiece fun composer cs hcomposer piece ps hpiece => ?_)
  obtain ⟨hvalid, hnew⟩ := hpiece.of_create hcreate
  exact .createPiece hcreate hcomposer hvalid hnew

theorem meets_updatePiece :
    (Desk.updatePiece id command).run.Meets db
      (fun new db' => Order.Effect now db (.piece (.update id command)) (.shown new) db')
      db.Refused := by
  refine Plan.meets_after.2 ⟨fun hensure => ?_, fun e he => .rule (isBusinessRule_of_ensure he)⟩
  have hupdate := operation_of_ensure hensure
  refine meets_unit ?_
  rw [meets_bind, meets_lock]
  refine ⟨fun hhas => ?_, fun _ => Or.inl rfl⟩
  refine meets_resolvePiece fun composer cs hcomposer piece ps hpiece => ?_
  obtain ⟨hvalid, -, rfl, rfl⟩ := hpiece.of_update hupdate
  exact .updatePiece hupdate hcomposer hvalid hhas

theorem meets_deletePiece :
    (Desk.deletePiece id).run.Meets db
      (fun _ db' => Order.Effect now db (.piece (.delete id)) .noContent db') db.Refused := by
  refine meets_guarded rfl fun hhas hcount => ?_
  have hfree := Dependency.pieceProgrammes_eq_zero.1 hcount
  refine Statement.meets_deletePiece.2 ⟨fun _ => ⟨fun _ => ?_, fun hno => ?_⟩, fun _ => ?_⟩
  · exact .deletePiece hhas hfree
  · exact absurd hfree hno
  · exact Or.inl rfl

end Pieces

/-! ## Venues -/

section Venues

variable {venue : Intent Venue}

/-- A venue is resolved for itself. -/
theorem meets_resolveAlone {Q : Venue → Catalogue → Prop}
    (h : ∀ value t, Resolved db venue value t → Q value { db with venues := t }) :
    (resolve venue).Meets db Q db.Refused := by
  refine meets_resolve.mono ?_ ?_
  · rintro value db' ⟨t, hvenue, rfl⟩
    exact h value t hvenue
  · rintro e db' ⟨rfl, he⟩
    exact ⟨rfl, .of_lastId .venue he⟩

theorem meets_createVenue :
    (Desk.createVenue venue).run.Meets db
      (fun new db' => Order.Effect now db (.venue (.create venue)) (.created venue.tempId new) db')
      db.Refused := by
  refine Plan.meets_after.2 ⟨fun hensure => ?_, fun e he => .rule (isBusinessRule_of_ensure he)⟩
  have hcreate := operation_of_ensure hensure
  refine meets_resolveAlone fun value t hvenue => ?_
  obtain ⟨hvalid, hnew⟩ := hvenue.of_create hcreate
  exact .createVenue hcreate hvalid hnew

theorem meets_updateVenue :
    (Desk.updateVenue id venue).run.Meets db
      (fun new db' => Order.Effect now db (.venue (.update id venue)) (.shown new) db')
      db.Refused := by
  refine Plan.meets_after.2 ⟨fun hensure => ?_, fun e he => .rule (isBusinessRule_of_ensure he)⟩
  have hupdate := operation_of_ensure hensure
  refine meets_resolveAlone fun value t hvenue => ?_
  obtain ⟨hvalid, hhas, rfl, rfl⟩ := hvenue.of_update hupdate
  exact .updateVenue hupdate hvalid hhas

theorem meets_deleteVenue :
    (Desk.deleteVenue id).run.Meets db
      (fun _ db' => Order.Effect now db (.venue (.delete id)) .noContent db') db.Refused := by
  refine meets_guarded rfl fun hhas hcount => ?_
  have hfree := Dependency.venuePublishedEvents_eq_zero.1 hcount
  exact Statement.meets_deleteVenue.2 ⟨fun _ => .deleteVenue hhas hfree, fun _ => Or.inl rfl⟩

end Venues

/-! ## Programmes -/

section Programmes

variable {p : Programme} {pieceIds : List Int}

theorem meets_createProgramme :
    (Desk.createProgramme p).run.Meets db
      (fun new db' => Order.Effect now db (.programme (.create p)) (.created none new) db')
      db.Refused := by
  refine meets_creation rfl ?_ fun hfull => Or.inr ⟨.programme, hfull⟩
  intro hvalid new t hnew
  exact .createProgramme hvalid hnew

theorem meets_updateProgramme :
    (Desk.updateProgramme id p).run.Meets db
      (fun new db' => Order.Effect now db (.programme (.update id p)) (.shown new) db')
      db.Refused := by
  refine Plan.meets_after.2 ⟨fun hvalid => ?_, fun e he => .rule (isBusinessRule_of_valid he)⟩
  refine meets_guarded rfl fun hhas hcount => ?_
  have hfree := Dependency.programmePublishedEvents_eq_zero.1 hcount
  refine meets_update.2 ⟨fun _ => ⟨fun _ => ?_, fun hno => nomatch hno⟩, fun _ => Or.inl rfl⟩
  exact .updateProgramme (valid_eq_ok hvalid) hhas hfree

theorem meets_requirePieces {Q : Unit → Catalogue → Prop} {E : Fault → Catalogue → Prop}
    (hQ : (∀ k ∈ pieceIds, db.pieces.has k = true) → Q () db) (hE : E .notFound db) :
    (Desk.requirePieces pieceIds).Meets db Q E := by
  induction pieceIds with
  | nil => exact hQ fun k hk => nomatch hk
  | cons pieceId pieceIds ih =>
    rw [Desk.requirePieces, meets_bind, meets_require]
    refine ⟨fun hhas => ih fun hall => hQ fun k hk => ?_, fun _ => hE⟩
    rcases List.mem_cons.1 hk with rfl | hk
    · exact hhas
    · exact hall k hk

theorem meets_replacePieces :
    (Desk.replacePieces id pieceIds).run.Meets db
      (fun shown db' => Order.Effect now db (.programme (.replacePieces id pieceIds)) (.shown shown)
        db')
      db.Refused := by
  refine meets_guarded rfl fun hhas hcount => ?_
  have hfree := Dependency.programmePublishedEvents_eq_zero.1 hcount
  rw [meets_bind]
  refine meets_requirePieces (fun hdistinct => ?_) (Or.inl rfl)
  have hpieces : ∀ k ∈ pieceIds, db.pieces.has k = true :=
    fun k hk => hdistinct k (Desk.mem_distinct.2 hk)
  rw [meets_bind, meets_replaceSlots hhas hpieces]
  refine Listing.reads_programmeWithPieces.meets.mono ?_ ?_
  · rintro shown db' ⟨rfl, hshown⟩
    exact .replacePieces hhas hfree hpieces hshown
  · rintro e db' ⟨-, he⟩
    exact Or.inl he

theorem meets_deleteProgramme :
    (Desk.deleteProgramme id).run.Meets db
      (fun _ db' => Order.Effect now db (.programme (.delete id)) .noContent db') db.Refused := by
  refine meets_guarded rfl fun hhas hcount => ?_
  have hfree := Dependency.programmePublishedEvents_eq_zero.1 hcount
  exact Statement.meets_deleteProgramme.2 ⟨fun _ => .deleteProgramme hhas hfree, fun _ => Or.inl rfl⟩

end Programmes

/-! ## Biographies -/

section Biographies

variable {name content : String}

theorem isBusinessRule_of_parse {e : Fault} (h : Biography.Variant.parse name = .error e) :
    e.isBusinessRule = true := by
  unfold Biography.Variant.parse at h
  split at h
  · cases h
  · cases h
    rfl

theorem reads_showBiography : (Desk.showBiography name).run.Reads db := by
  unfold Desk.showBiography
  cases hparse : Biography.Variant.parse name with
  | error e => exact reads_fail (isBusinessRule_of_parse hparse)
  | ok variant => exact Listing.reads_biography

theorem meets_updateBiography :
    (Desk.updateBiography name content).run.Meets db
      (fun b db' => Order.Effect now db (.updateBiography name content) (.shown b) db')
      db.Refused := by
  unfold Desk.updateBiography
  cases hparse : Biography.Variant.parse name with
  | error e => exact meets_fail.2 (.rule (isBusinessRule_of_parse hparse))
  | ok variant => exact meets_putBiography.2 (.updateBiography hparse)

end Biographies

end Recital.Http
