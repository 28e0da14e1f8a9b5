import Recital.Desk.Scheduling
import Recital.Proofs.Catalogue.Integrity

/-!
# What resolving an intent leads to

* `Catalogue.Excuses` : a fault lies in a request, or a table has no id left.
* `Resolved` : the entity that an intent stands for, and its table once the intent has been carried out.
  `meets_resolve` : that is what resolving it leads to, and a failure changes nothing.
* `Intent.resolvedId` : the id of that entity.
* `Desk.VenueResolved`, `Desk.EventCommand.resolvedDetails` : the same of the optional venue of an event.
-/

set_option autoImplicit false

namespace Recital

/-! ## Excused faults -/

namespace Catalogue

/-- The last id given out to an entity of a kind. -/
def lastId (db : Catalogue) : Kind → Int
  | .composer => db.composers.lastId
  | .piece => db.pieces.lastId
  | .programme => db.programmes.lastId
  | .venue => db.venues.lastId
  | .event => db.events.lastId

/-- The fault lies in a request, or a table has no id left. -/
def Excuses (db : Catalogue) (e : Fault) : Prop :=
  e.isBusinessRule = true ∨ ∃ kind, Text.maxInt64 ≤ db.lastId kind

/-- The catalogue is left as it was, with an excused fault. -/
def Refused (db : Catalogue) (e : Fault) (db' : Catalogue) : Prop :=
  db' = db ∧ db.Excuses e

variable {db : Catalogue} {e : Fault}

theorem Excuses.of_lastId (kind : Kind)
    (h : e.isBusinessRule = true ∨ Text.maxInt64 ≤ db.lastId kind) : db.Excuses e := by
  rcases h with h | h
  · exact Or.inl h
  · exact Or.inr ⟨kind, h⟩

theorem Refused.rule (h : e.isBusinessRule = true) : db.Refused e db :=
  ⟨rfl, Or.inl h⟩

end Catalogue

theorem valid_eq_ok {check : Except Violation Unit} {u : Unit} (h : valid check = .ok u) :
    check = .ok () := by
  cases check with
  | ok u => rfl
  | error v => cases h

theorem isBusinessRule_of_valid {check : Except Violation Unit} {e : Fault}
    (h : valid check = .error e) : e.isBusinessRule = true := by
  cases check with
  | ok u => cases h
  | error v =>
    obtain rfl : Fault.invalidResource v = e := Except.error.inj h
    rfl

theorem operation_of_ensure {α : Type} {intent : Intent α} {expected : Operation} {u : Unit}
    (h : intent.ensure expected = .ok u) : intent.operation = expected := by
  unfold Intent.ensure at h
  split at h
  · cases h
  split at h
  · rename_i hop
    exact hop
  · cases h

theorem isBusinessRule_of_ensure {α : Type} {intent : Intent α} {expected : Operation} {e : Fault}
    (h : intent.ensure expected = .error e) : e.isBusinessRule = true := by
  unfold Intent.ensure at h
  split at h
  · cases h
    rfl
  split at h
  · cases h
  · cases h
    rfl

/-- What fails in a unit of work leaves no trace. -/
theorem Step.meets_unit {α : Type} {db : Catalogue} {step : Step α} {Q : α → Catalogue → Prop}
    (h : step.Meets db Q fun e _ => db.Excuses e) : (Step.atomically step).Meets db Q db.Refused :=
  Step.meets_atomically.2 (h.mono (fun _ _ hq => hq) fun _ _ he => ⟨rfl, he⟩)

/-! ## Intents -/

/-- Entities that need their references to name rows, and nothing else. -/
class LawfulResolvable (α : Type) [Resolvable α] : Prop where
  meets_needs : ∀ {db : Catalogue} {row : α} {Q : Unit → Catalogue → Prop}
    {E : Fault → Catalogue → Prop}, (Resolvable.needs row).Meets db Q E ↔
      (Stored.refers db row = true → Q () db) ∧ (Stored.refers db row = false → E .notFound db)
  setTable_table : ∀ db : Catalogue, Stored.setTable (Stored.table (α := α) db) db = db

instance : LawfulResolvable Composer where
  meets_needs := by
    intro db row Q E
    exact ⟨fun h => ⟨fun _ => h, fun hr => nomatch hr⟩, fun h => h.1 rfl⟩
  setTable_table _ := rfl

instance : LawfulResolvable Piece where
  meets_needs := Statement.meets_require
  setTable_table _ := rfl

instance : LawfulResolvable Venue where
  meets_needs := by
    intro db row Q E
    exact ⟨fun h => ⟨fun _ => h, fun hr => nomatch hr⟩, fun h => h.1 rfl⟩
  setTable_table _ := rfl

/-- The entity that an intent stands for, and its table once the intent has been carried out. -/
inductive Resolved {α : Type} [Resolvable α] (db : Catalogue) (intent : Intent α) :
    α → Table α → Prop where
  | selected {row : α} (hop : intent.operation = .select)
      (hrow : (Stored.table db).find? (Keyed.id intent.data) = some row) :
      Resolved db intent row (Stored.table db)
  | created {new : α} {t : Table α} (hop : intent.operation = .create)
      (hvalid : Resolvable.validate intent.data = .ok ())
      (hrefers : Stored.refers db intent.data = true)
      (hnew : (Stored.table db).insert? intent.data = some (new, t)) :
      Resolved db intent new t
  | updated (hop : intent.operation = .update)
      (hvalid : Resolvable.validate intent.data = .ok ())
      (hrefers : Stored.refers db intent.data = true)
      (hhas : (Stored.table (α := α) db).has (Keyed.id intent.data) = true) :
      Resolved db intent intent.data ((Stored.table db).put intent.data)

section Resolving

open Step Statement

variable {α : Type} [Resolvable α] {db : Catalogue} {intent : Intent α} {value : α} {t : Table α}

theorem Resolved.grows (h : Resolved db intent value t) : (Stored.table db).Grows t := by
  cases h with
  | selected hop hrow => exact Table.Grows.refl _
  | created hop hvalid hrefers hnew => exact Table.Grows.insert? hnew
  | updated hop hvalid hrefers hhas => exact Table.Grows.put

/-- The entity is in its table. -/
theorem Resolved.has (h : Resolved db intent value t) : t.has (Keyed.id value) = true := by
  cases h with
  | selected hop hrow => exact Table.has_of_mem (Table.mem_of_find? hrow)
  | created hop hvalid hrefers hnew => rw [Table.has_insert? hnew, decide_eq_true rfl, Bool.or_true]
  | updated hop hvalid hrefers hhas =>
    rw [Table.has_put]
    exact hhas

/-- The id of the entity that an intent stands for. -/
def Intent.resolvedId (db : Catalogue) (intent : Intent α) : Int :=
  match intent.operation with
  | .create => (Stored.table (α := α) db).lastId + 1
  | _ => Keyed.id intent.data

theorem Resolved.id_eq (h : Resolved db intent value t) : Keyed.id value = intent.resolvedId db := by
  unfold Intent.resolvedId
  cases h with
  | selected hop hrow => simpa only [hop] using Table.id_of_find? hrow
  | created hop hvalid hrefers hnew => simpa only [hop] using (Table.eq_of_insert? hnew).1
  | updated hop hvalid hrefers hhas => simp only [hop]

/-- What is to be created is valid and new. -/
theorem Resolved.of_create (h : Resolved db intent value t) (hcreate : intent.operation = .create) :
    Resolvable.validate intent.data = .ok () ∧
      (Stored.table db).insert? intent.data = some (value, t) := by
  cases h with
  | selected hop hrow => cases hcreate.symm.trans hop
  | created hop hvalid hrefers hnew => exact ⟨hvalid, hnew⟩
  | updated hop hvalid hrefers hhas => cases hcreate.symm.trans hop

/-- What is to be changed is valid and there. -/
theorem Resolved.of_update (h : Resolved db intent value t) (hupdate : intent.operation = .update) :
    Resolvable.validate intent.data = .ok () ∧
      (Stored.table (α := α) db).has (Keyed.id intent.data) = true ∧ value = intent.data ∧
      t = (Stored.table db).put intent.data := by
  cases h with
  | selected hop hrow => cases hupdate.symm.trans hop
  | created hop hvalid hrefers hnew => cases hupdate.symm.trans hop
  | updated hop hvalid hrefers hhas => exact ⟨hvalid, hhas, rfl, rfl⟩

/-- A failure to resolve an intent changes nothing, and lies in the request unless no id is left. -/
theorem meets_resolve [LawfulResolvable α] :
    (resolve intent).Meets db
      (fun value db' => ∃ t, Resolved db intent value t ∧ db' = Stored.setTable t db)
      (fun e db' => db' = db ∧
        (e.isBusinessRule = true ∨ Text.maxInt64 ≤ (Stored.table (α := α) db).lastId)) := by
  unfold resolve
  split
  · rename_i hop
    refine meets_fetch.2 ⟨fun row hrow => ?_, fun _ => ⟨rfl, Or.inl rfl⟩⟩
    exact ⟨_, .selected hop hrow, (LawfulResolvable.setTable_table db).symm⟩
  · rename_i hop
    rw [meets_bind, meets_check]
    refine ⟨fun u hu => ?_, fun e he => ⟨rfl, Or.inl (isBusinessRule_of_valid he)⟩⟩
    rw [meets_bind, LawfulResolvable.meets_needs]
    refine ⟨fun hrefers => ?_, fun _ => ⟨rfl, Or.inl rfl⟩⟩
    refine meets_insert.2 ⟨fun _ => ⟨fun new t hnew => ?_, fun hnone => ?_⟩, fun hno => ?_⟩
    · exact ⟨t, .created hop (valid_eq_ok hu) hrefers hnew, rfl⟩
    · exact ⟨rfl, Or.inr (Table.lastId_of_insert?_eq_none hnone)⟩
    · cases hrefers.symm.trans hno
  · rename_i hop
    rw [meets_bind, meets_check]
    refine ⟨fun u hu => ?_, fun e he => ⟨rfl, Or.inl (isBusinessRule_of_valid he)⟩⟩
    rw [meets_bind, LawfulResolvable.meets_needs]
    refine ⟨fun hrefers => ?_, fun _ => ⟨rfl, Or.inl rfl⟩⟩
    refine meets_update.2 ⟨fun hhas => ⟨fun _ => ?_, fun hno => ?_⟩, fun _ => ⟨rfl, Or.inl rfl⟩⟩
    · exact ⟨_, .updated hop (valid_eq_ok hu) hrefers hhas, rfl⟩
    · cases hrefers.symm.trans hno
  · exact meets_fail.2 ⟨rfl, Or.inl rfl⟩

end Resolving

/-! ## Venues of events -/

namespace Desk

open Step

/-- The details of a command once its venue has been resolved, and the venues then. -/
inductive VenueResolved (db : Catalogue) (command : EventCommand) :
    EventDetails → Table Venue → Prop where
  | given (hnone : command.venue = none) : VenueResolved db command command.event db.venues
  | resolved {intent : Intent Venue} {venue : Venue} {t : Table Venue}
      (hsome : command.venue = some intent) (hvenue : Resolved db intent venue t) :
      VenueResolved db command { command.event with venueId := some venue.id } t

variable {db : Catalogue} {command : EventCommand} {details : EventDetails} {t : Table Venue}

theorem VenueResolved.grows (h : VenueResolved db command details t) : db.venues.Grows t := by
  cases h with
  | given hnone => exact Table.Grows.refl _
  | resolved hsome hvenue => exact hvenue.grows

/-- The details of a command, with the id of its venue. -/
def EventCommand.resolvedDetails (db : Catalogue) (command : EventCommand) : EventDetails :=
  match command.venue with
  | none => command.event
  | some intent => { command.event with venueId := some (intent.resolvedId db) }

theorem VenueResolved.details_eq (h : VenueResolved db command details t) :
    details = command.resolvedDetails db := by
  unfold EventCommand.resolvedDetails
  cases h with
  | given hnone => rw [hnone]
  | resolved hsome hvenue =>
    rw [hsome]
    exact congrArg (fun id => { command.event with venueId := some id }) hvenue.id_eq

theorem meets_resolveVenue :
    (resolveVenue command).Meets db
      (fun details db' => ∃ t, VenueResolved db command details t ∧ db' = { db with venues := t })
      db.Refused := by
  unfold resolveVenue
  split
  · rename_i hnone
    exact meets_pure.2 ⟨_, .given hnone, rfl⟩
  · rename_i intent hsome
    rw [meets_bind]
    refine meets_resolve.mono ?_ ?_
    · rintro venue db' ⟨t, hvenue, rfl⟩
      exact meets_pure.2 ⟨t, .resolved hsome hvenue, rfl⟩
    · rintro e db' ⟨rfl, he⟩
      exact ⟨rfl, .of_lastId .venue he⟩

end Desk

end Recital
