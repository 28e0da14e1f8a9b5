import Recital.Proofs.Http.Keeping
import Recital.Session

/-!
# References below the use cases

Calls reach the statements past every rule of the use cases, in a unit of work or outside one.  The schema
keeps the references of the catalogue all the same.

* `keeps_call`, `keeps_intervention` : every call, and every hand on the database, keeps integrity.
* `Session.through` : the session after any number of actions, from a new catalogue on.
* `Session.Holds` : the catalogue that is seen has a property, and so has the one that a dropped unit of
  work returns to.  `Holds.act` : every action keeps what requests, calls and opening again keep.
* `Session.Whole` : both have integrity.  `whole_through` : they do after any actions.
* `references_intact` : no reference dangles after any actions.
-/

set_option autoImplicit false

namespace Recital

open Step Statement Catalogue

/-! ## Calls -/

theorem keeps_shown {α : Type} [Showable α] {P : Catalogue → Prop} {step : Step α}
    (h : step.Keeps P) : step.shown.Keeps P :=
  h.bind fun _ => keeps_pure _

theorem keeps_rowCall {α δ : Type} [Detailed α δ] [Showable α] [Showable δ] [LawfulStored α]
    {delete : Int → Step Unit} (hdelete : ∀ id, (delete id).Keeps Integrity) (call : RowCall α) :
    (call.step delete).Keeps Integrity := by
  cases call with
  | get id => exact keeps_shown (keeps_fetch id)
  | details id => exact keeps_shown (keeps_query _)
  | list => exact keeps_shown (keeps_query _)
  | create row => exact keeps_shown (keeps_insert row)
  | update row => exact keeps_shown (Statement.keeps_update row)
  | delete id => exact keeps_shown (hdelete id)

theorem keeps_eventCall {now : Instant} (call : EventCall) : (call.step now).Keeps Integrity := by
  cases call with
  | get id => exact keeps_shown keeps_fetchEvent
  | create e => exact keeps_shown (keeps_insertEvent e)
  | update e => exact keeps_shown (Statement.keeps_updateEvent e)
  | updateNotes id notes => exact keeps_shown (Statement.keeps_updateNotes notes)
  | setStatus id status => exact keeps_shown (keeps_setStatus status)
  | delete id => exact keeps_shown keeps_deleteEvent
  | list status timeframe moment => exact keeps_shown (keeps_query _)
  | listWithTimes status timeframe moment => exact keeps_shown (keeps_query _)

/-- Every call keeps integrity. -/
theorem keeps_call {now : Instant} (call : Call) : (call.step now).Keeps Integrity := by
  cases call with
  | composer call => exact keeps_rowCall (fun _ => keeps_deleteComposer) call
  | piece call => exact keeps_rowCall (fun _ => keeps_deletePiece) call
  | venue call => exact keeps_rowCall (fun _ => keeps_deleteVenue) call
  | programme call => exact keeps_rowCall (fun _ => keeps_deleteProgramme) call
  | programmePieces id => exact keeps_shown (keeps_query _)
  | replacePieces id pieceIds => exact keeps_shown (keeps_replaceSlots pieceIds)
  | event call => exact keeps_eventCall call
  | biography variant => exact keeps_shown keeps_biography
  | putBiography b => exact keeps_shown (keeps_putBiography b)
  | resolveComposer intent => exact keeps_shown (keeps_resolve intent)
  | resolvePiece intent => exact keeps_shown (keeps_resolve intent)
  | resolveVenue intent => exact keeps_shown (keeps_resolve intent)
  | count dependency id => exact keeps_shown (keeps_query _)
  | requireFree dependency id blocked => exact keeps_shown keeps_requireFree
  | lock kind id => exact keeps_shown keeps_lock
  | has kind id => exact keeps_shown (keeps_query _)

/-- No column that can be overwritten by hand is a reference. -/
theorem refers_set? {db : Catalogue} {row new : EventRow} {column : Column} {value : Option String}
    (h : db.Refers row) (hset : column.set? row value = some new) : db.Refers new := by
  unfold Column.set? at hset
  split at hset
  · cases hset
    exact h
  · cases hset
    exact h
  · cases hset
    exact h
  · obtain ⟨status, -, rfl⟩ := Option.map_eq_some_iff.1 hset
    exact h
  · cases hset

theorem keeps_intervention (intervention : Intervention) : intervention.step.Keeps Integrity := by
  cases intervention with
  | touchAll kind => exact keeps_shown (keeps_query _)
  | poke column id value =>
    refine keeps_shown (keeps_statement fun db u db' hdb hf => ?_)
    split at hf
    · cases hf
    · rename_i row hrow
      split at hf
      · cases hf
      · rename_i new hset
        cases hf
        exact hdb.putEvent (refers_set? (hdb.eventRefers row (Table.mem_of_find? hrow)) hset)
  | deleteBiography variant =>
    refine keeps_shown (keeps_statement fun db u db' hdb hf => ?_)
    split at hf
    · cases hf
      exact hdb.withBiographies
    · cases hf

/-! ## Sessions -/

namespace Session

/-- The session after an action at a moment. -/
def acted (s : Session) (action : Instant × Action) : Session :=
  (s.act action.1 action.2).2

/-- The session after actions at their moments, from a new catalogue on. -/
def through (actions : List (Instant × Action)) : Session :=
  actions.foldl acted {}

/-! ### What every action keeps -/

variable {s : Session} {now : Instant}

/-- The catalogue that is seen has a property, and so has the one that a dropped unit of work returns
to. -/
structure Holds (s : Session) (P : Catalogue → Prop) : Prop where
  seen : P s.catalogue
  kept : ∀ db, s.kept = some db → P db

/-- A property that requests, calls and opening again keep. -/
structure Lasting (P : Catalogue → Prop) : Prop where
  request : ∀ (now : Instant) (request : Http.Request) {db : Catalogue}, P db →
    P (Http.respond now request db).2
  schedule : ∀ (now : Instant) (details : EventDetails),
    (Desk.createEvent now ⟨details, none, none⟩).run.Keeps P
  call : ∀ (now : Instant) (call : Call), (call.step now).Keeps P
  seeded : ∀ {db : Catalogue}, P db → P db.seeded

variable {P : Catalogue → Prop}

theorem Holds.dropped (h : s.Holds P) : s.dropped.Holds P := by
  refine ⟨?_, fun _ hkept => nomatch hkept⟩
  show P (s.kept.getD s.catalogue)
  cases hkept : s.kept with
  | none => exact h.seen
  | some db => exact h.kept db hkept

theorem Holds.perform (h : s.Holds P) {step : Step Json.Value} (hstep : step.Keeps P) :
    (s.perform step).2.Holds P := by
  have hseen := hstep s.catalogue h.seen
  unfold Session.perform
  split
  · cases hrun : step.run s.catalogue with
    | mk r db =>
      rw [hrun] at hseen
      cases r with
      | ok v => exact ⟨hseen, h.kept⟩
      | error e => exact ⟨hseen, h.kept⟩
  · exact h

/-- Every action keeps what requests, calls and opening again keep, if interventions do. -/
theorem Holds.act (h : s.Holds P) (hP : Lasting P) (action : Action)
    (hintervene : ∀ intervention, action = .intervene intervention → intervention.step.Keeps P) :
    (s.act now action).2.Holds P := by
  cases action with
  | request request =>
    unfold Session.act
    simp only
    split
    · exact h
    · unfold Session.respond
      split
      · exact ⟨hP.request now request h.seen, h.kept⟩
      · exact h
  | schedule details =>
    unfold Session.act
    simp only
    split
    · exact h
    · exact h.perform (keeps_shown (hP.schedule now details))
  | call call => exact h.perform (hP.call now call)
  | intervene intervention => exact h.perform (hintervene intervention rfl)
  | begin =>
    unfold Session.act
    simp only
    split
    · exact h
    split
    · refine ⟨h.seen, fun db hkept => ?_⟩
      obtain rfl : s.catalogue = db := Option.some.inj hkept
      exact h.seen
    · exact h
  | commit =>
    unfold Session.act
    simp only
    split
    · exact ⟨h.seen, fun _ hkept => nomatch hkept⟩
    · exact h
  | rollback =>
    unfold Session.act
    simp only
    split
    · exact h.dropped
    · exact h
  | close => exact ⟨h.dropped.seen, h.dropped.kept⟩
  | reopen => exact ⟨hP.seeded h.dropped.seen, fun _ hkept => nomatch hkept⟩

theorem holds_foldl {actions : List (Instant × Action)} (h : s.Holds P) (hP : Lasting P)
    (hintervene : ∀ action ∈ actions, ∀ intervention, action.2 = .intervene intervention →
      intervention.step.Keeps P) : (actions.foldl acted s).Holds P := by
  induction actions generalizing s with
  | nil => exact h
  | cons action actions ih =>
    refine ih (h.act hP action.2 (hintervene action (List.mem_cons_self ..))) fun a ha => ?_
    exact hintervene a (List.mem_cons_of_mem _ ha)

/-! ### Integrity -/

theorem lasting_integrity : Lasting Integrity where
  request _ request _ h := Http.integrity_respond request h
  schedule _ _ := Desk.keeps_createEvent _
  call _ call := keeps_call call
  seeded h := h.seeded

/-- The catalogue that is seen has integrity, and so has the one that a dropped unit of work returns
to. -/
structure Whole (s : Session) : Prop where
  seen : s.catalogue.Integrity
  kept : ∀ db, s.kept = some db → db.Integrity

/-- Whatever has been done, the session is whole. -/
theorem whole_through (actions : List (Instant × Action)) : (through actions).Whole := by
  have hnew : ({} : Session).Holds Integrity := ⟨Integrity.fresh, fun _ h => nomatch h⟩
  have hholds : (through actions).Holds Integrity :=
    holds_foldl hnew lasting_integrity fun _ _ intervention _ => keeps_intervention intervention
  exact ⟨hholds.seen, hholds.kept⟩

end Session

/-! ## References -/

/-- Every reference names a row, the places of a programme are positive and apart, and every status is a
known one. -/
structure Catalogue.Referential (db : Catalogue) : Prop where
  pieceComposer : ∀ p ∈ db.pieces.rows, ∃ c ∈ db.composers.rows, c.id = p.composerId
  slotProgramme : ∀ s ∈ db.slots, ∃ p ∈ db.programmes.rows, p.id = s.programmeId
  slotPiece : ∀ s ∈ db.slots, ∃ p ∈ db.pieces.rows, p.id = s.pieceId
  eventVenue : ∀ row ∈ db.events.rows, ∀ id, row.venueId = some id → ∃ v ∈ db.venues.rows, v.id = id
  eventProgramme : ∀ row ∈ db.events.rows, ∀ id, row.programmeId = some id →
    ∃ p ∈ db.programmes.rows, p.id = id
  slotsApart : db.slots.Pairwise fun s t =>
    ¬ (s.programmeId = t.programmeId ∧ s.sequence = t.sequence)
  slotPositive : ∀ s ∈ db.slots, 0 < s.sequence
  eventStatus : ∀ row ∈ db.events.rows,
    row.status = .draft ∨ row.status = .published ∨ row.status = .archived

theorem Catalogue.Integrity.referential {db : Catalogue} (h : db.Integrity) : db.Referential where
  pieceComposer p hp := Table.has_iff.1 (h.pieceComposer p hp)
  slotProgramme s hs := Table.has_iff.1 (h.slotProgramme s hs)
  slotPiece s hs := Table.has_iff.1 (h.slotPiece s hs)
  eventVenue row hrow id hid := Table.has_iff.1 (refers_iff.1 (h.eventRefers row hrow).1 id hid)
  eventProgramme row hrow id hid := Table.has_iff.1 (refers_iff.1 (h.eventRefers row hrow).2 id hid)
  slotsApart := h.slotsApart.imp fun hapart hsame => hapart hsame.1 hsame.2
  slotPositive := h.slotPositive
  eventStatus row _ := by cases row.status <;> simp

/-- **No reference dangles**, whatever requests have been served, calls and interventions made, in units of
work or outside them, and however they ended; neither in the catalogue that is seen, nor in the one that a
dropped unit of work returns to. -/
theorem Session.references_intact (actions : List (Instant × Action)) :
    (through actions).catalogue.Referential ∧
      ∀ db, (through actions).kept = some db → db.Referential :=
  ⟨(whole_through actions).seen.referential, fun db hkept =>
    ((whole_through actions).kept db hkept).referential⟩

end Recital
