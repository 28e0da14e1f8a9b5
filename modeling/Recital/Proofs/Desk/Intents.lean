import Recital.Proofs.Desk.Refusals

/-!
# How intents end

* `Fault.ofAbsence`, `Fault.ofBlank`, `Fault.ofViolation` : what is looked for, and the fault if it is found.
  `bind_run_of_look` : a step that only looks, before others.
* `Intent.refusal?` : the first fault that keeps an intent from being carried out.
* `Intent.Leaves` : the entity that an intent stands for, and its table once the intent has been carried out.
* `resolve_run_of_refused`, `exists_resolved` : an intent is refused, or it is carried out.
* `Intent.Honoured` : how resolving an intent ends, on any connection.  `honoured` : on a sound table with ids
  left, it ends so.
-/

set_option autoImplicit false

namespace Recital

/-! ## Looking for faults -/

namespace Fault

/-- What must be there is not. -/
def ofAbsence (there : Bool) : Option Fault :=
  if there then none else some .notFound

/-- A text is blank and must not be. -/
def ofBlank (text : String) (v : Violation) : Option Fault :=
  if Text.isBlank text then some (.invalidResource v) else none

/-- A rule is violated. -/
def ofViolation : Except Violation Unit → Option Fault
  | .ok () => none
  | .error v => some (.invalidResource v)

/-- Ends with the fault that has been found, if there is one. -/
def raised : Option Fault → Except Fault Unit
  | none => .ok ()
  | some f => .error f

@[simp] theorem ofAbsence_true : ofAbsence true = none := rfl

@[simp] theorem ofAbsence_false : ofAbsence false = some .notFound := rfl

theorem ofAbsence_eq_none_iff {there : Bool} : ofAbsence there = none ↔ there = true := by
  cases there <;> simp

theorem ofAbsence_eq_some_iff {there : Bool} {f : Fault} :
    ofAbsence there = some f ↔ there = false ∧ f = .notFound := by
  cases there <;> simp [eq_comm]

theorem ofViolation_eq_none_iff {rule : Except Violation Unit} : ofViolation rule = none ↔ rule = .ok () := by
  cases rule with
  | ok u => exact ⟨fun _ => rfl, fun _ => rfl⟩
  | error v => exact ⟨nofun, nofun⟩

theorem valid_eq_raised (rule : Except Violation Unit) : valid rule = raised (ofViolation rule) := by
  cases rule <;> rfl

/-- The rule of a single text. -/
theorem ofViolation_firstBlank_singleton (text : String) (v : Violation) :
    ofViolation (firstBlank [(text, v)]) = ofBlank text v := by
  unfold ofBlank firstBlank
  split <;> rfl

end Fault

namespace Step

variable {β : Type} {db : Catalogue} {look : Step Unit} {found : Option Fault}

/-- The end of what a fault bars if it has been found, and nothing is written then. -/
def barring (found : Option Fault) (db : Catalogue) (rest : Except Fault β × Catalogue) :
    Except Fault β × Catalogue :=
  match found with
  | some f => (.error f, db)
  | none => rest

@[simp] theorem barring_none (rest : Except Fault β × Catalogue) : barring none db rest = rest := rfl

@[simp] theorem barring_some (f : Fault) (rest : Except Fault β × Catalogue) :
    barring (some f) db rest = (.error f, db) := rfl

/-- Of two faults that bar it, the first one counts. -/
theorem barring_or (found' : Option Fault) (rest : Except Fault β × Catalogue) :
    barring (found.or found') db rest = barring found db (barring found' db rest) := by
  cases found <;> rfl

/-- A step that only looks for a fault, before others. -/
theorem bind_run_of_look {next : Unit → Step β} (h : look.run db = (Fault.raised found, db)) :
    (look >>= next).run db = barring found db ((next ()).run db) := by
  rw [bind_run, h]
  cases found <;> rfl

theorem check_valid_run (rule : Except Violation Unit) (db : Catalogue) :
    (check (valid rule)).run db = (Fault.raised (Fault.ofViolation rule), db) := by
  rw [check_run, Fault.valid_eq_raised]

end Step

namespace Statement

open Step

theorem lock_run_eq (kind : Kind) (id : Int) (db : Catalogue) :
    (lock kind id).run db = (Fault.raised (Fault.ofAbsence (db.has kind id)), db) := by
  rw [lock, query_run]
  cases db.has kind id <;> rfl

theorem require_run_eq (kind : Kind) (id : Int) (db : Catalogue) :
    (require kind id).run db = (Fault.raised (Fault.ofAbsence (db.has kind id)), db) := by
  cases hhas : db.has kind id with
  | true => exact require_run hhas
  | false => exact require_run_of_missing hhas

theorem needs_run_eq {α : Type} [Resolvable α] [LawfulResolvable α] (row : α) (db : Catalogue) :
    (Resolvable.needs row).run db = (Fault.raised (Fault.ofAbsence (Stored.refers db row)), db) := by
  rw [needs_run]
  cases Stored.refers db row <;> rfl

end Statement

/-! ## Intents -/

section Resolving

open Step Statement

variable {α : Type} [Resolvable α] {db : Catalogue} {intent : Intent α} {value : α} {t : Table α} {f : Fault}

/-- The first fault that keeps an intent from being carried out.  A violated rule comes before a reference that
names no row, and this before the row itself that is missing. -/
def Intent.refusal? (db : Catalogue) (intent : Intent α) : Option Fault :=
  match intent.operation with
  | .select => Fault.ofAbsence ((Stored.table (α := α) db).has (Keyed.id intent.data))
  | .create => (Fault.ofViolation (Resolvable.validate intent.data)).or
      (Fault.ofAbsence (Stored.refers db intent.data))
  | .update => ((Fault.ofViolation (Resolvable.validate intent.data)).or
      (Fault.ofAbsence (Stored.refers db intent.data))).or
      (Fault.ofAbsence ((Stored.table (α := α) db).has (Keyed.id intent.data)))
  | .unsupported => some .invalidOperation

/-- The entity that an intent stands for, and its table once the intent has been carried out.  A selection gives
the row of the id, a creation adds a row under an id that has none, and an update puts the entity in place of
the row of its id. -/
structure Intent.Leaves (db : Catalogue) (intent : Intent α) (value : α) (t : Table α) : Prop where
  stored : t.find? (Keyed.id value) = some value
  select : intent.operation = .select →
    Keyed.id value = Keyed.id intent.data ∧ t = Stored.table db
  create : intent.operation = .create →
    value = Keyed.withId ((Stored.table (α := α) db).lastId + 1) intent.data ∧
    (Stored.table (α := α) db).has (Keyed.id value) = false ∧
    t = ⟨(Stored.table db).rows ++ [value], (Stored.table (α := α) db).lastId + 1⟩
  update : intent.operation = .update →
    value = intent.data ∧ (Stored.table (α := α) db).has (Keyed.id value) = true ∧
    t = (Stored.table db).put value

theorem Resolved.leaves (h : Resolved db intent value t) (hsound : (Stored.table (α := α) db).Sound) :
    intent.Leaves db value t := by
  cases h with
  | selected hop hrow =>
    have hid := Table.id_of_find? hrow
    refine ⟨hid ▸ hrow, fun _ => ⟨hid, rfl⟩, fun hcreate => ?_, fun hupdate => ?_⟩
    · cases hop.symm.trans hcreate
    · cases hop.symm.trans hupdate
  | created hop hvalid hrefers hnew =>
    obtain ⟨hid, ht⟩ := Table.eq_of_insert? hnew
    refine ⟨hid ▸ hsound.find?_insert? hnew, fun hselect => ?_, fun _ => ?_, fun hupdate => ?_⟩
    · cases hop.symm.trans hselect
    · exact ⟨(Table.new_of_insert? hnew).1, hid ▸ (hsound.has_next hnew).1, ht⟩
    · cases hop.symm.trans hupdate
  | updated hop hvalid hrefers hhas =>
    refine ⟨Table.find?_put_self hhas, fun hselect => ?_, fun hcreate => ?_, fun _ => ⟨rfl, hhas, rfl⟩⟩
    · cases hop.symm.trans hselect
    · cases hop.symm.trans hcreate

/-- **An intent that is refused has the fault that comes first, and nothing is written.** -/
theorem resolve_run_of_refused [LawfulResolvable α] (h : intent.refusal? db = some f) :
    (resolve intent).run db = (.error f, db) := by
  unfold resolve
  unfold Intent.refusal? at h
  cases hop : intent.operation with
  | select =>
    simp only [hop] at h ⊢
    obtain ⟨hmissing, rfl⟩ := Fault.ofAbsence_eq_some_iff.1 h
    exact fetch_run_of_missing hmissing
  | create =>
    simp only [hop] at h ⊢
    rw [bind_run_of_look (check_valid_run _ db), bind_run_of_look (needs_run_eq _ db), ← barring_or, h,
      barring_some]
  | update =>
    simp only [hop] at h ⊢
    rw [bind_run_of_look (check_valid_run _ db), bind_run_of_look (needs_run_eq _ db), ← barring_or]
    -- a missing row is found out by the statement itself, after the looks
    rcases Option.or_eq_some_iff.1 h with hlooked | ⟨hlooked, hmissing⟩
    · rw [hlooked, barring_some]
    · obtain ⟨hhas, rfl⟩ := Fault.ofAbsence_eq_some_iff.1 hmissing
      rw [hlooked, barring_none, update_run_of_missing hhas]
  | unsupported =>
    simp only [hop] at h ⊢
    cases h
    rfl

/-- What is not refused can be carried out, if there is an id left. -/
theorem exists_resolved (h : intent.refusal? db = none)
    (hnext : (Stored.table (α := α) db).lastId < Text.maxInt64) :
    ∃ value t, Resolved db intent value t := by
  unfold Intent.refusal? at h
  split at h
  · rename_i hop
    obtain ⟨row, hrow⟩ := Table.find?_of_has (Fault.ofAbsence_eq_none_iff.1 h)
    exact ⟨row, _, .selected hop hrow⟩
  · rename_i hop
    obtain ⟨hvalid, hrefers⟩ := Option.or_eq_none_iff.1 h
    exact ⟨_, _, .created hop (Fault.ofViolation_eq_none_iff.1 hvalid) (Fault.ofAbsence_eq_none_iff.1 hrefers)
      (if_pos hnext)⟩
  · rename_i hop
    obtain ⟨hallowed, hhas⟩ := Option.or_eq_none_iff.1 h
    obtain ⟨hvalid, hrefers⟩ := Option.or_eq_none_iff.1 hallowed
    exact ⟨_, _, .updated hop (Fault.ofViolation_eq_none_iff.1 hvalid) (Fault.ofAbsence_eq_none_iff.1 hrefers)
      (Fault.ofAbsence_eq_none_iff.1 hhas)⟩
  · cases h

/-- An intent ends with the fault that keeps it from being carried out, or with what it stands for. -/
theorem resolve_run_eq [LawfulResolvable α] {found : Option Fault} (hfound : intent.refusal? db = found)
    (h : found = none → Resolved db intent value t) :
    (resolve intent).run db = barring found db (.ok value, Stored.setTable t db) := by
  cases found with
  | some f => exact resolve_run_of_refused hfound
  | none => exact (h rfl).run

/-! ## What is promised of intents -/

/-- Tables are read as they have been written. -/
class LawfulTable (α : Type) [Stored α] : Prop where
  table_setTable : ∀ (t : Table α) (db : Catalogue), Stored.table (Stored.setTable t db) = t

instance : LawfulTable Composer := ⟨fun _ _ => rfl⟩
instance : LawfulTable Piece := ⟨fun _ _ => rfl⟩
instance : LawfulTable Venue := ⟨fun _ _ => rfl⟩

/-- How resolving an intent ends, in a unit of work or outside one. -/
structure Intent.Honoured (db : Catalogue) (intent : Intent α) : Prop where
  refused : ∀ f, intent.refusal? db = some f → (resolve intent).run db = (.error f, db)
  /-- What has been resolved is selected by its id from then on. -/
  resolved : intent.refusal? db = none → ∃ value t, intent.Leaves db value t ∧
    (resolve intent).run db = (.ok value, Stored.setTable t db) ∧
    ∀ selection : Intent α, selection.operation = .select → Keyed.id selection.data = Keyed.id value →
      (resolve selection).run (Stored.setTable t db) = (.ok value, Stored.setTable t db)
  /-- Whatever the failure is, and even if no unit of work takes it back. -/
  failed : ∀ f db', (resolve intent).run db = (.error f, db') → db' = db
  /-- A selection reads the id alone, and only reads. -/
  select : intent.operation = .select → ((resolve intent).run db).2 = db ∧
    ∀ other : Intent α, other.operation = .select → Keyed.id other.data = Keyed.id intent.data →
      resolve other = resolve intent

theorem resolve_of_select (hop : intent.operation = .select) :
    resolve intent = fetch (Keyed.id intent.data) := by
  rw [resolve, hop]

/-- **Every intent is honoured** on a sound table that has an id left. -/
theorem Intent.honoured [LawfulResolvable α] [LawfulTable α] (intent : Intent α)
    (hsound : (Stored.table (α := α) db).Sound)
    (hnext : (Stored.table (α := α) db).lastId ≠ Text.maxInt64) : intent.Honoured db := by
  have hlt := hsound.lastId_lt hnext
  refine ⟨fun f hf => resolve_run_of_refused hf, fun hnone => ?_, fun f db' hrun => ?_, fun hop => ⟨?_, ?_⟩⟩
  · obtain ⟨value, t, hresolved⟩ := exists_resolved hnone hlt
    have hleaves := hresolved.leaves hsound
    refine ⟨value, t, hleaves, hresolved.run, fun selection hselect hid => ?_⟩
    rw [resolve_of_select hselect, hid]
    refine fetch_run ?_
    rw [LawfulTable.table_setTable]
    exact hleaves.stored
  · cases hrefusal : intent.refusal? db with
    | some g =>
      rw [resolve_run_of_refused hrefusal] at hrun
      exact (congrArg Prod.snd hrun).symm
    | none =>
      obtain ⟨value, t, hresolved⟩ := exists_resolved hrefusal hlt
      cases hresolved.run.symm.trans hrun
  · rw [resolve_of_select hop, fetch, query_run]
  · intro other hother hid
    rw [resolve_of_select hother, resolve_of_select hop, hid]

end Resolving

end Recital
