import Recital.Catalogue.Call
import Recital.Proofs.Catalogue.Timeless

/-!
# Calls

* `Json.Value.SameEvents` : two values are the same, or list the same events, each with its times.
* `timeless_call` : every call shows the same at any two moments, save the times.
* `Step.Undone` : a step that fails leaves the catalogue as it was.
* `Call.Torn` : what a call that fails leaves of the catalogue.  It is as it was, except where slots have
  been replaced one by one.  `torn_of_error` : so does every call on a readable catalogue.
-/

set_option autoImplicit false

namespace Recital

open Step Statement

/-! ## Moments -/

/-- The values are the same, or list the same events, each with its times. -/
inductive Json.Value.SameEvents : Value → Value → Prop where
  | same (v : Value) : SameEvents v v
  | times {es es' : List Event.WithTimes}
      (h : es.map Event.WithTimes.event = es'.map Event.WithTimes.event) :
      SameEvents (Showable.encode es) (Showable.encode es')

theorem timeless_shown {α : Type} [Showable α] {step step' : Step α} (h : Timeless Eq step step') :
    Timeless Json.Value.SameEvents step.shown step'.shown :=
  h.andThen fun _ => timeless_pure (.same _)

section Calls

variable {now now' : Instant}

theorem timeless_rowCall {α δ : Type} [Detailed α δ] [Showable α] [Showable δ] [TimelessDetailed α]
    {delete : Int → Step Unit} (hdelete : ∀ id, Timeless Eq (delete id) (delete id))
    (call : RowCall α) :
    Timeless Json.Value.SameEvents (call.step delete) (call.step delete) := by
  cases call with
  | get id => exact timeless_shown (timeless_fetch id)
  | details id => exact timeless_shown (Listing.timeless_detailsOf id)
  | list => exact timeless_shown Listing.timeless_allDetails
  | create row => exact timeless_shown (timeless_insert row)
  | update row => exact timeless_shown (timeless_update row)
  | delete id => exact timeless_shown (hdelete id)

theorem timeless_eventCall (call : EventCall) :
    Timeless Json.Value.SameEvents (call.step now) (call.step now') := by
  cases call with
  | get id => exact timeless_shown (timeless_fetchEvent id)
  | create e => exact timeless_shown (timeless_insertEvent e)
  | update e => exact timeless_shown (timeless_updateEvent e)
  | updateNotes id notes => exact timeless_shown (timeless_updateNotes id notes)
  | setStatus id status => exact timeless_shown (timeless_setStatus id status)
  | delete id => exact timeless_shown (timeless_deleteEvent id)
  | list status timeframe moment => exact timeless_shown Listing.timeless_listEvents
  | listWithTimes status timeframe moment =>
    exact Listing.timeless_listEventsWithTimes.bind fun h => timeless_pure (.times h)

/-- **A call shows the same at any two moments, save the times of events**, and leaves the same but for
them. -/
theorem timeless_call (now now' : Instant) (call : Call) :
    Timeless Json.Value.SameEvents (call.step now) (call.step now') := by
  cases call with
  | composer call => exact timeless_rowCall timeless_deleteComposer call
  | piece call => exact timeless_rowCall timeless_deletePiece call
  | venue call => exact timeless_rowCall timeless_deleteVenue call
  | programme call => exact timeless_rowCall timeless_deleteProgramme call
  | programmePieces id => exact timeless_shown (Listing.timeless_piecesOf id)
  | replacePieces id pieceIds => exact timeless_shown (timeless_replaceSlots id pieceIds)
  | event call => exact timeless_eventCall call
  | biography variant => exact timeless_shown (timeless_biography variant)
  | putBiography b => exact timeless_shown (timeless_putBiography b)
  | resolveComposer intent => exact timeless_shown (timeless_resolve intent)
  | resolvePiece intent => exact timeless_shown (timeless_resolve intent)
  | resolveVenue intent => exact timeless_shown (timeless_resolve intent)
  | count dependency id => exact timeless_shown (timeless_count dependency id)
  | requireFree dependency id blocked =>
    exact timeless_shown (timeless_requireFree dependency id blocked)
  | lock kind id => exact timeless_shown (timeless_lock kind id)
  | has kind id => exact timeless_shown (timeless_exists? kind id)

end Calls

/-! ## Failures -/

namespace Step

variable {α : Type} {db db' : Catalogue} {step : Step α} {e : Fault}

/-- A step that fails leaves the catalogue as it was. -/
def Undone (step : Step α) (db : Catalogue) : Prop :=
  step.Meets db (fun _ _ => True) fun _ db' => db' = db

theorem Undone.eq_of_error (h : step.Undone db) (hrun : step.run db = (.error e, db')) : db' = db := by
  unfold Undone Meets at h
  rw [hrun] at h
  exact h

theorem undone_query (f : Catalogue → Except Fault α) : (query f).Undone db := by
  refine meets_query.2 ?_
  cases f db with
  | ok a => trivial
  | error e => rfl

theorem undone_statement (f : Catalogue → Except Fault (α × Catalogue)) : (statement f).Undone db := by
  refine meets_statement.2 ?_
  cases f db with
  | ok p => trivial
  | error e => rfl

/-- What is shown of a value cannot fail. -/
theorem Undone.shown [Showable α] (h : step.Undone db) : step.shown.Undone db :=
  meets_bind.2 (h.mono (fun _ _ _ => trivial) fun _ _ he => he)

theorem error_of_shown [Showable α] (h : step.shown.run db = (.error e, db')) :
    step.run db = (.error e, db') := by
  unfold shown at h
  rw [bind_run] at h
  generalize step.run db = p at *
  obtain ⟨r, left⟩ := p
  cases r with
  | ok a => cases h
  | error f =>
    cases h
    rfl

end Step

namespace Statement

variable {now : Instant} {id : Int} {db db' : Catalogue} {e : Fault}

theorem undone_fetchEvent : (fetchEvent id).Undone db :=
  meets_fetchEvent.2 ⟨fun _ _ => ⟨fun _ _ => trivial, fun _ _ => rfl⟩, fun _ => rfl⟩

/-- A new event is read back. -/
theorem undone_insertEvent (made : Event) : (insertEvent now made).Undone db := by
  refine meets_bind.2 (meets_insert.2 ⟨fun _ => ⟨fun new t hnew => ?_, fun _ => rfl⟩, fun _ => rfl⟩)
  have hread : new.Readable := by
    rw [(Table.new_of_insert? hnew).1]
    exact EventRow.readable_ofEvent.withId
  exact meets_event hread fun _ _ => trivial

/-- A row that is changed is read back, if its dates are stored instants. -/
theorem undone_changeEvent {change : Catalogue → EventRow → Except Fault EventRow}
    (hread : db.Readable)
    (h : ∀ row new, row.Readable → change db row = .ok new → new.Readable) :
    (changeEvent id change).Undone db := by
  refine meets_changeEvent.2 ⟨fun row hrow => ⟨fun new hnew => ⟨fun _ _ => trivial, ?_⟩, ?_⟩, ?_⟩
  · intro f hf
    exact absurd hf (h row new (hread row (Table.mem_of_find? hrow)) hnew).not_error
  · exact fun _ _ => rfl
  · exact fun _ => rfl

theorem undone_updateEvent (hread : db.Readable) (made : Event) :
    (updateEvent now made).Undone db := by
  refine undone_changeEvent hread fun row new hrow hnew => ?_
  simp only at hnew
  split at hnew
  · cases hnew
    exact (hrow.edited : (row.edited now made.details).Readable)
  · cases hnew

theorem undone_updateNotes (hread : db.Readable) (notes : Option String) :
    (updateNotes now id notes).Undone db :=
  undone_changeEvent hread fun _ _ hrow hnew => Except.ok.inj hnew ▸ hrow.annotated

theorem undone_setStatus (hread : db.Readable) (status : Status) :
    (setStatus now id status).Undone db :=
  undone_changeEvent hread fun _ _ hrow hnew => Except.ok.inj hnew ▸ hrow.moved

theorem undone_requireFree {dependency : Dependency} {blocked : Fault} :
    (requireFree dependency id blocked).Undone db :=
  meets_requireFree.2 ⟨fun _ => trivial, fun _ => rfl⟩

/-- The slots before the one that fails stay. -/
theorem insertSlots_error {entries : List (Int × Int)}
    (h : (insertSlots id entries).run db = (.error e, db')) :
    ∃ k, k < entries.length ∧
      db' = { db with slots := db.slots ++ Catalogue.slotsFor id (entries.take k) } := by
  induction entries generalizing db with
  | nil => cases h
  | cons entry entries ih =>
    rw [insertSlots, bind_run] at h
    cases hrun : (insertSlot ⟨id, entry.2, entry.1⟩).run db with
    | mk r left =>
      rw [hrun] at h
      cases r with
      | error f =>
        have hleft : left = db := statement_error hrun
        cases h
        refine ⟨0, Nat.zero_lt_succ _, ?_⟩
        rw [hleft, List.take_zero, Catalogue.slotsFor, List.map_nil, List.append_nil]
      | ok u =>
        obtain ⟨k, hk, rfl⟩ := ih h
        have hleft : left = { db with slots := db.slots ++ [⟨id, entry.2, entry.1⟩] } := by
          unfold insertSlot statement run at hrun
          simp only at hrun
          split at hrun
          · rename_i hsome
            split at hsome
            · cases hsome
              cases hrun
              rfl
            · cases hsome
          · cases hrun
        refine ⟨k + 1, Nat.succ_lt_succ hk, ?_⟩
        rw [hleft, List.take_succ_cons, Catalogue.slotsFor, Catalogue.slotsFor, List.map_cons,
          List.append_assoc]
        rfl

end Statement

/-- What a call that fails leaves of the catalogue.  It is as it was, except where slots have been replaced
one by one: the old ones are gone, and those before the failing one are there. -/
def Call.Torn (call : Call) (db db' : Catalogue) : Prop :=
  db' = db ∨ ∃ id pieceIds k, call = .replacePieces id pieceIds ∧ k < pieceIds.length ∧
    db' = { db with slots := db.replacedSlots id (pieceIds.take k) }

theorem take_sequencedFrom (first : Int) (pieceIds : List Int) (k : Nat) :
    (sequencedFrom first pieceIds).take k = sequencedFrom first (pieceIds.take k) := by
  induction pieceIds generalizing first k with
  | nil => simp [sequencedFrom]
  | cons pieceId pieceIds ih =>
    cases k with
    | zero => rfl
    | succ k => rw [sequencedFrom, List.take_succ_cons, List.take_succ_cons, sequencedFrom, ih]

section Failing

variable {now : Instant} {db db' : Catalogue} {e : Fault}

theorem undone_rowCall {α δ : Type} [Detailed α δ] [Showable α] [Showable δ]
    {delete : Int → Step Unit} (hdelete : ∀ id, (delete id).Undone db) (call : RowCall α) :
    (call.step delete).Undone db := by
  cases call with
  | get id => exact (undone_query _).shown
  | details id => exact (undone_query _).shown
  | list => exact (undone_query _).shown
  | create row => exact (undone_statement _).shown
  | update row => exact (undone_statement _).shown
  | delete id => exact (hdelete id).shown

theorem undone_eventCall (hread : db.Readable) (call : EventCall) : (call.step now).Undone db := by
  cases call with
  | get id => exact undone_fetchEvent.shown
  | create made => exact (undone_insertEvent made).shown
  | update made => exact (undone_updateEvent hread made).shown
  | updateNotes id notes => exact (undone_updateNotes hread notes).shown
  | setStatus id status => exact (undone_setStatus hread status).shown
  | delete id => exact (undone_statement _).shown
  | list status timeframe moment => exact (undone_query _).shown
  | listWithTimes status timeframe moment => exact (undone_query _).shown

theorem undone_resolve {α : Type} [Resolvable α] [LawfulResolvable α] (intent : Intent α) :
    (resolve intent).Undone db :=
  meets_resolve.mono (fun _ _ _ => trivial) fun _ _ he => he.1

/-- **A call that fails undoes itself**, or has replaced some of the slots of a programme. -/
theorem torn_of_error (hread : db.Readable) {call : Call}
    (h : (call.step now).run db = (.error e, db')) : call.Torn db db' := by
  cases call with
  | composer call =>
    exact Or.inl ((undone_rowCall (fun _ => undone_statement _) call).eq_of_error h)
  | piece call => exact Or.inl ((undone_rowCall (fun _ => undone_statement _) call).eq_of_error h)
  | venue call => exact Or.inl ((undone_rowCall (fun _ => undone_statement _) call).eq_of_error h)
  | programme call =>
    exact Or.inl ((undone_rowCall (fun _ => undone_statement _) call).eq_of_error h)
  | programmePieces id => exact Or.inl ((undone_query _).shown.eq_of_error h)
  | replacePieces id pieceIds =>
    obtain ⟨k, hk, rfl⟩ := insertSlots_error (error_of_shown h)
    rw [sequenced, ← List.length_map Prod.snd, map_snd_sequencedFrom] at hk
    refine Or.inr ⟨id, pieceIds, k, rfl, hk, ?_⟩
    rw [Catalogue.replacedSlots, sequenced, sequenced, take_sequencedFrom]
  | event call => exact Or.inl ((undone_eventCall hread call).eq_of_error h)
  | biography variant => exact Or.inl ((undone_query _).shown.eq_of_error h)
  | putBiography b => exact Or.inl ((undone_statement _).shown.eq_of_error h)
  | resolveComposer intent => exact Or.inl ((undone_resolve intent).shown.eq_of_error h)
  | resolvePiece intent => exact Or.inl ((undone_resolve intent).shown.eq_of_error h)
  | resolveVenue intent => exact Or.inl ((undone_resolve intent).shown.eq_of_error h)
  | count dependency id => exact Or.inl ((undone_query _).shown.eq_of_error h)
  | requireFree dependency id blocked => exact Or.inl (undone_requireFree.shown.eq_of_error h)
  | lock kind id => exact Or.inl ((undone_query _).shown.eq_of_error h)
  | has kind id => exact Or.inl ((undone_query _).shown.eq_of_error h)

end Failing

end Recital
