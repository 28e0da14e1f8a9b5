import Recital.Catalogue.Statement
import Recital.Proofs.Catalogue.Step
import Recital.Proofs.Catalogue.Table

/-!
# What each statement leads to

One equivalence per statement tells the catalogue it leaves when it is carried out, under the conditions
of the schema, and the fault of each condition that fails.

* `Catalogue.Performed`, `Catalogue.Hosting` : a published event performs a programme, or is at a venue.
* `Dependency.composerPieces_eq_zero`, … : a count of dependents is zero exactly when there are none.
* `meets_fetch`, `meets_insert`, `meets_update` : the rows of any table.
* `meets_guarded_iff` : a step that a count guards.
* `meets_deleteComposer`, … , `meets_putBiography` : the other statements.
* `meets_replaceSlots` : all the statements that replace the slots of a programme, where they can be
  carried out.
-/

set_option autoImplicit false

namespace Recital

namespace Catalogue

variable {db : Catalogue} {id : Int}

/-- A published event performs the programme. -/
def Performed (db : Catalogue) (id : Int) : Prop :=
  ∃ row ∈ db.events.rows, row.status = .published ∧ row.programmeId = some id

/-- A published event is at the venue. -/
def Hosting (db : Catalogue) (id : Int) : Prop :=
  ∃ row ∈ db.events.rows, row.status = .published ∧ row.venueId = some id

/-- The slots that pieces fill when they are listed as a programme. -/
def slotsFor (id : Int) (entries : List (Int × Int)) : List Slot :=
  entries.map fun entry => ⟨id, entry.2, entry.1⟩

/-- The slots after those of a programme have given way to the listed pieces. -/
def replacedSlots (db : Catalogue) (id : Int) (pieceIds : List Int) : List Slot :=
  (db.slots.filter fun s => s.programmeId ≠ id) ++ slotsFor id (sequenced pieceIds)

end Catalogue

namespace Dependency

variable {db : Catalogue} {id : Int}

theorem composerPieces_eq_zero :
    composerPieces.count db id = 0 ↔ ∀ p ∈ db.pieces.rows, p.composerId ≠ id := by
  simp [count, List.countP_eq_zero]

/-- A piece is counted in no programme exactly when it has no slot. -/
theorem pieceProgrammes_eq_zero :
    pieceProgrammes.count db id = 0 ↔ ∀ s ∈ db.slots, s.pieceId ≠ id := by
  have hnil : ∀ l : List Int, l.eraseDups.length = 0 ↔ l = [] := by
    intro l
    cases l <;> simp [List.eraseDups_cons]
  simp [count, hnil]

theorem venuePublishedEvents_eq_zero :
    venuePublishedEvents.count db id = 0 ↔ ¬ db.Hosting id := by
  simp only [count, List.countP_eq_zero, Catalogue.Hosting]
  simp only [decide_eq_true_eq, not_exists, not_and]
  exact forall₂_congr fun row _ => ⟨fun h hs hv => h hv hs, fun h hv hs => h hs hv⟩

theorem programmePublishedEvents_eq_zero :
    programmePublishedEvents.count db id = 0 ↔ ¬ db.Performed id := by
  simp only [count, List.countP_eq_zero, Catalogue.Performed]
  simp only [decide_eq_true_eq, not_exists, not_and]
  exact forall₂_congr fun row _ => ⟨fun h hs hv => h hv hs, fun h hv hs => h hs hv⟩

theorem programmePieces_eq_zero : programmePieces.count db id = 0 ↔ db.slotsOf id = [] := by
  simp [count]

end Dependency

namespace Statement

open Step

variable {db : Catalogue} {E : Fault → Catalogue → Prop}

section Rows

variable {α : Type} [Stored α] {Q : α → Catalogue → Prop}

theorem meets_fetch {id : Int} :
    (fetch id : Step α).Meets db Q E ↔
      (∀ row, (Stored.table db).find? id = some row → Q row db) ∧
      ((Stored.table (α := α) db).find? id = none → E .notFound db) := by
  unfold fetch
  rw [meets_query]
  cases h : (Stored.table (α := α) db).find? id <;> simp

theorem meets_insert {row : α} :
    (insert row).Meets db Q E ↔
      (Stored.refers db row = true →
        (∀ new t, (Stored.table db).insert? row = some (new, t) → Q new (Stored.setTable t db)) ∧
        ((Stored.table db).insert? row = none → E .database db)) ∧
      (Stored.refers db row = false → E .database db) := by
  unfold insert
  rw [meets_statement]
  cases hr : Stored.refers db row with
  | false => simp
  | true =>
    cases hi : (Stored.table db).insert? row with
    | none => simp
    | some p =>
      obtain ⟨new, t⟩ := p
      simp

theorem meets_update {row : α} :
    (update row).Meets db Q E ↔
      ((Stored.table (α := α) db).has (Keyed.id row) = true →
        (Stored.refers db row = true → Q row (Stored.setTable ((Stored.table db).put row) db)) ∧
        (Stored.refers db row = false → E .database db)) ∧
      ((Stored.table (α := α) db).has (Keyed.id row) = false → E .notFound db) := by
  unfold update
  rw [meets_statement]
  cases hh : (Stored.table (α := α) db).has (Keyed.id row) with
  | false => simp
  | true => cases hr : Stored.refers db row <;> simp

end Rows

section Queries

variable {Q : Unit → Catalogue → Prop} {id : Int}

theorem meets_lock {kind : Kind} :
    (lock kind id).Meets db Q E ↔
      (db.has kind id = true → Q () db) ∧ (db.has kind id = false → E .notFound db) := by
  unfold lock
  rw [meets_query]
  cases h : db.has kind id <;> simp

theorem meets_require {kind : Kind} :
    (require kind id).Meets db Q E ↔
      (db.has kind id = true → Q () db) ∧ (db.has kind id = false → E .notFound db) := by
  unfold require exists?
  rw [meets_bind, meets_query]
  cases db.has kind id <;> simp [meets_pure, meets_fail]

theorem meets_count {dependency : Dependency} {Q : Nat → Catalogue → Prop} :
    (count dependency id).Meets db Q E ↔ Q (dependency.count db id) db :=
  meets_query

theorem meets_requireFree {dependency : Dependency} {blocked : Fault} :
    (requireFree dependency id blocked).Meets db Q E ↔
      (dependency.count db id = 0 → Q () db) ∧ (dependency.count db id ≠ 0 → E blocked db) := by
  unfold requireFree
  rw [meets_bind, meets_count]
  by_cases h : dependency.count db id = 0
  · simp [h, meets_pure]
  · simp [h, Nat.pos_of_ne_zero h, meets_fail]

/-- How a step ends that runs only where a row exists and nothing depends on it. -/
theorem meets_guarded_iff {α : Type} {step : Step α} {kind : Kind} {dependency : Dependency}
    {blocked : Fault} {Q : α → Catalogue → Prop} :
    (atomically do
      lock kind id
      requireFree dependency id blocked
      step).Meets db Q E ↔
    (db.has kind id = true →
      (dependency.count db id = 0 → step.Meets db Q fun e _ => E e db) ∧
      (dependency.count db id ≠ 0 → E blocked db)) ∧
    (db.has kind id = false → E .notFound db) := by
  rw [meets_atomically, meets_bind, meets_lock, meets_bind, meets_requireFree]

end Queries

section Removals

variable {Q : Unit → Catalogue → Prop} {id : Int}

theorem meets_deleteComposer :
    (deleteComposer id).Meets db Q E ↔
      (db.composers.has id = true →
        ((∀ p ∈ db.pieces.rows, p.composerId ≠ id) →
          Q () { db with composers := db.composers.erase id }) ∧
        (¬ (∀ p ∈ db.pieces.rows, p.composerId ≠ id) → E .database db)) ∧
      (db.composers.has id = false → E .notFound db) := by
  have h : (∀ p ∈ db.pieces.rows, p.composerId ≠ id) ↔
      (db.pieces.rows.any fun p => p.composerId = id) = false := by simp
  unfold deleteComposer
  rw [meets_statement, h]
  cases db.composers.has id with
  | false => simp
  | true => cases db.pieces.rows.any fun p => p.composerId = id <;> simp

theorem meets_deletePiece :
    (deletePiece id).Meets db Q E ↔
      (db.pieces.has id = true →
        ((∀ s ∈ db.slots, s.pieceId ≠ id) → Q () { db with pieces := db.pieces.erase id }) ∧
        (¬ (∀ s ∈ db.slots, s.pieceId ≠ id) → E .database db)) ∧
      (db.pieces.has id = false → E .notFound db) := by
  have h : (∀ s ∈ db.slots, s.pieceId ≠ id) ↔
      (db.slots.any fun s => s.pieceId = id) = false := by simp
  unfold deletePiece
  rw [meets_statement, h]
  cases db.pieces.has id with
  | false => simp
  | true => cases db.slots.any fun s => s.pieceId = id <;> simp

theorem meets_deleteProgramme :
    (deleteProgramme id).Meets db Q E ↔
      (db.programmes.has id = true → Q () { db with
        programmes := db.programmes.erase id
        slots := db.slots.filter fun s => s.programmeId ≠ id
        events := withoutReference .programme id db.events }) ∧
      (db.programmes.has id = false → E .notFound db) := by
  unfold deleteProgramme
  rw [meets_statement]
  cases db.programmes.has id <;> simp

theorem meets_deleteVenue :
    (deleteVenue id).Meets db Q E ↔
      (db.venues.has id = true → Q () { db with
        venues := db.venues.erase id
        events := withoutReference .venue id db.events }) ∧
      (db.venues.has id = false → E .notFound db) := by
  unfold deleteVenue
  rw [meets_statement]
  cases db.venues.has id <;> simp

theorem meets_deleteEvent :
    (deleteEvent id).Meets db Q E ↔
      (db.events.has id = true → Q () { db with events := db.events.erase id }) ∧
      (db.events.has id = false → E .notFound db) := by
  unfold deleteEvent
  rw [meets_statement]
  cases db.events.has id <;> simp

end Removals

section Events

variable {Q : Event → Catalogue → Prop} {id : Int}

theorem meets_fetchEvent :
    (fetchEvent id).Meets db Q E ↔
      (∀ row, db.events.find? id = some row →
        (∀ e, row.event = .ok e → Q e db) ∧ ∀ e, row.event = .error e → E e db) ∧
      (db.events.find? id = none → E .notFound db) := by
  unfold fetchEvent
  rw [meets_bind, meets_fetch]
  simp only [meets_check]
  rfl

theorem meets_changeEvent {change : Catalogue → EventRow → Except Fault EventRow} :
    (changeEvent id change).Meets db Q E ↔
      (∀ row, db.events.find? id = some row →
        (∀ new, change db row = .ok new →
          (∀ e, new.event = .ok e → Q e { db with events := db.events.put new }) ∧
          ∀ e, new.event = .error e → E e { db with events := db.events.put new }) ∧
        ∀ e, change db row = .error e → E e db) ∧
      (db.events.find? id = none → E .notFound db) := by
  unfold changeEvent
  rw [meets_bind, meets_statement]
  simp only [meets_check]
  cases db.events.find? id with
  | none => simp
  | some row => cases hc : change db row <;> simp [Except.map, hc]

end Events

section Slots

variable {Q : Unit → Catalogue → Prop} {id : Int}

theorem meets_clearSlots :
    (clearSlots id).Meets db Q E ↔
      Q () { db with slots := db.slots.filter fun s => s.programmeId ≠ id } :=
  meets_statement

/-- A slot that the schema allows is added. -/
theorem meets_insertSlot {slot : Slot} (hpos : 0 < slot.sequence)
    (hprogramme : db.has .programme slot.programmeId = true)
    (hpiece : db.has .piece slot.pieceId = true)
    (hfree : ∀ s ∈ db.slots, s.programmeId = slot.programmeId → s.sequence ≠ slot.sequence) :
    (insertSlot slot).Meets db Q E ↔ Q () { db with slots := db.slots ++ [slot] } := by
  have hnot : ¬ ∃ s ∈ db.slots, s.programmeId = slot.programmeId ∧ s.sequence = slot.sequence := by
    rintro ⟨s, hs, hp, hq⟩
    exact hfree s hs hp hq
  unfold insertSlot
  rw [meets_statement]
  simp [hpos, hprogramme, hpiece, hnot]

/-- Pieces fill the places from `first` on, if the places before it are the only ones taken. -/
theorem meets_insertSlots {pieceIds : List Int} {first : Int} (hpos : 0 < first)
    (hprogramme : db.has .programme id = true)
    (hpieces : ∀ pieceId ∈ pieceIds, db.has .piece pieceId = true)
    (hfree : ∀ s ∈ db.slots, s.programmeId = id → s.sequence < first) :
    (insertSlots id (sequencedFrom first pieceIds)).Meets db Q E ↔
      Q () { db with slots := db.slots ++ Catalogue.slotsFor id (sequencedFrom first pieceIds) } := by
  induction pieceIds generalizing first db with
  | nil =>
    rw [sequencedFrom, insertSlots, meets_pure, Catalogue.slotsFor, List.map_nil, List.append_nil]
  | cons pieceId pieceIds ih =>
    have hpiece := hpieces pieceId (List.mem_cons_self ..)
    have hplace : ∀ s ∈ db.slots, s.programmeId = id → s.sequence ≠ first :=
      fun s hs hp => Int.ne_of_lt (hfree s hs hp)
    rw [sequencedFrom, insertSlots, meets_bind, meets_insertSlot hpos hprogramme hpiece hplace, ih]
    · rw [Catalogue.slotsFor, Catalogue.slotsFor, List.map_cons, List.append_assoc]
      rfl
    · omega
    · exact hprogramme
    · exact fun k hk => hpieces k (List.mem_cons_of_mem _ hk)
    · intro s hs hp
      rcases List.mem_append.1 hs with hs | hs
      · have := hfree s hs hp
        omega
      · rw [List.mem_singleton.1 hs]
        simp only
        omega

/-- The slots of a programme give way to those of the listed pieces. -/
theorem meets_replaceSlots {pieceIds : List Int} (hprogramme : db.has .programme id = true)
    (hpieces : ∀ pieceId ∈ pieceIds, db.has .piece pieceId = true) :
    (replaceSlots id pieceIds).Meets db Q E ↔
      Q () { db with slots := db.replacedSlots id pieceIds } := by
  unfold replaceSlots
  rw [meets_bind, meets_clearSlots]
  refine meets_insertSlots (by decide) hprogramme hpieces ?_
  intro s hs hp
  simp only [List.mem_filter, decide_eq_true_eq] at hs
  exact absurd hp hs.2

end Slots

section Biographies

variable {Q : Biography → Catalogue → Prop}

theorem meets_biography {variant : Biography.Variant} :
    (biography variant).Meets db Q E ↔
      (∀ content, db.biographies.get? variant = some content → Q ⟨content, variant⟩ db) ∧
      (db.biographies.get? variant = none → E .notFound db) := by
  unfold biography
  rw [meets_query]
  cases db.biographies.get? variant <;> simp

theorem meets_putBiography {b : Biography} :
    (putBiography b).Meets db Q E ↔
      Q b { db with biographies := db.biographies.set (some b.content) b.variant } :=
  meets_statement

end Biographies

end Statement

end Recital
