import Recital.Proofs.Catalogue.EventRow

/-!
# Listings only read

* `Step.Reads` : a step leaves the catalogue as it is, and fails only by a fault of the request.
* `Catalogue.Readable` : the row of every event is readable.
* `reads_allDetails`, … , `reads_biography` : all that is shown is read, if the catalogue is readable.
-/

set_option autoImplicit false

namespace Recital

/-! ## Steps that read -/

namespace Step

variable {α β : Type} {db : Catalogue} {step : Step α} {next : α → Step β}

/-- The step leaves the catalogue as it is, and fails only by a fault of the request. -/
def Reads (step : Step α) (db : Catalogue) : Prop :=
  step.Meets db (fun _ db' => db' = db) fun e db' => db' = db ∧ e.isBusinessRule = true

theorem reads_pure {a : α} : (pure a : Step α).Reads db :=
  meets_pure.2 rfl

theorem reads_fail {e : Fault} (h : e.isBusinessRule = true) : (fail e : Step α).Reads db :=
  meets_fail.2 ⟨rfl, h⟩

theorem reads_query {f : Catalogue → Except Fault α}
    (h : ∀ e, f db = .error e → e.isBusinessRule = true) : (query f).Reads db := by
  unfold Reads
  rw [meets_query]
  cases hf : f db with
  | ok a => rfl
  | error e => exact ⟨rfl, h e hf⟩

theorem Reads.bind (h : step.Reads db) (hnext : ∀ a, (next a).Reads db) :
    (step >>= next).Reads db := by
  unfold Reads
  rw [meets_bind]
  refine Meets.mono h ?_ fun _ _ he => he
  rintro a db' rfl
  exact hnext a

/-- The value that has been read is the one that reading gives. -/
theorem Reads.meets (h : step.Reads db) :
    step.Meets db (fun a db' => db' = db ∧ step.run db = (.ok a, db))
      fun e db' => db' = db ∧ e.isBusinessRule = true := by
  unfold Reads Meets at *
  cases hrun : step.run db with
  | mk r db' =>
    rw [hrun] at h
    cases r with
    | error e => exact h
    | ok a =>
      obtain rfl : db' = db := h
      exact ⟨rfl, rfl⟩

end Step

/-! ## Listings -/

/-- The row of every event is readable. -/
def Catalogue.Readable (db : Catalogue) : Prop :=
  ∀ row ∈ db.events.rows, row.Readable

namespace Listing

open Step Statement

variable {db : Catalogue} {id : Int}

theorem reads_fetch {α : Type} [Stored α] : (fetch id : Step α).Reads db :=
  meets_fetch.2 ⟨fun _ _ => rfl, fun _ => ⟨rfl, rfl⟩⟩

theorem reads_detailsOf {α δ : Type} [Detailed α δ] : (detailsOf α id).Reads db := by
  refine reads_query fun e he => ?_
  split at he
  · cases he
  · cases he
    rfl

theorem reads_allDetails {α δ : Type} [Detailed α δ] : (allDetails α).Reads db :=
  reads_query fun _ he => nomatch he

theorem reads_programmeWithPieces : (programmeWithPieces id).Reads db := by
  refine reads_fetch.bind fun programme => Reads.bind ?_ fun pieces => reads_pure
  exact reads_query fun _ he => nomatch he

theorem reads_withProgramme {e : Event} : (withProgramme e).Reads db := by
  unfold withProgramme
  split
  · exact reads_pure
  · exact reads_programmeWithPieces.bind fun _ => reads_pure

theorem reads_fetchEvent (h : db.Readable) : (fetchEvent id).Reads db := by
  refine meets_fetchEvent.2 ⟨fun row hrow => ⟨fun _ _ => rfl, fun f hf => ?_⟩, fun _ => ⟨rfl, rfl⟩⟩
  exact absurd hf (h row (Table.mem_of_find? hrow)).not_error

theorem reads_eventWithProgramme (h : db.Readable) : (eventWithProgramme id).Reads db :=
  (reads_fetchEvent h).bind fun _ => reads_withProgramme

/-- A list has no fault where none of its members has one. -/
theorem each_ne_error {α β : Type} {f : α → Except Fault β} {l : List α}
    (h : ∀ a ∈ l, ∃ b, f a = .ok b) {e : Fault} : each f l ≠ .error e := by
  have hok : ∃ bs, each f l = .ok bs := by
    induction l with
    | nil => exact ⟨[], rfl⟩
    | cons a l ih =>
      obtain ⟨b, hb⟩ := h a (List.mem_cons_self ..)
      obtain ⟨bs, hbs⟩ := ih fun a ha => h a (List.mem_cons_of_mem _ ha)
      exact ⟨b :: bs, by simp only [each, hb, hbs, Except.map]⟩
  obtain ⟨bs, hbs⟩ := hok
  rw [hbs]
  intro he
  cases he

theorem reads_listEvents (h : db.Readable) {now moment : Instant} {status : Option Status}
    {timeframe : Option Timeframe} : (listEvents now status timeframe moment).Reads db := by
  refine reads_query fun e he => absurd he (each_ne_error fun row hrow => ?_)
  have hmem := (List.mergeSort_perm _ _).mem_iff.1 hrow
  exact (h row (List.mem_filter.1 hmem).1).event

theorem reads_listEventsWithTimes (h : db.Readable) {now moment : Instant} {status : Option Status}
    {timeframe : Option Timeframe} : (listEventsWithTimes now status timeframe moment).Reads db := by
  refine reads_query fun e he => absurd he (each_ne_error fun row hrow => ?_)
  exact (h row (List.mem_filter.1 hrow).1).eventWithTimes

theorem reads_biography {variant : Biography.Variant} : (biography variant).Reads db :=
  meets_biography.2 ⟨fun _ _ => rfl, fun _ => ⟨rfl, rfl⟩⟩

end Listing

end Recital
