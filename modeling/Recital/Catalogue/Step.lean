import Recital.Catalogue.Basic

/-!
# Steps on the catalogue

A `Step` runs on a catalogue, leaves one, and gives a value or a fault.  What a step has written before
it fails stays written; `Step.atomically` takes it back.

* `Step.query` : a step that writes nothing.
* `Step.statement` : one statement; it fails without writing.
* `Step.atomically` : a unit of work, which leaves the catalogue as it was if it fails.
* `Step.atomically_error` : the law of units of work.
-/

set_option autoImplicit false

namespace Recital

/-- Runs on a catalogue, leaves one, and gives a value or a fault. -/
def Step (α : Type) : Type :=
  Catalogue → Except Fault α × Catalogue

namespace Step

variable {α β : Type}

/-- Runs a step. -/
def run (step : Step α) (db : Catalogue) : Except Fault α × Catalogue :=
  step db

/-- A value, without a look at the catalogue. -/
def done (a : α) : Step α :=
  fun db => (.ok a, db)

/-- A step and, if it does not fail, the next one. -/
def andThen (step : Step α) (next : α → Step β) : Step β :=
  fun db => match step db with
    | (.ok a, db) => next a db
    | (.error e, db) => (.error e, db)

instance : Monad Step where
  pure := done
  bind := andThen

/-- A fault. -/
def fail (e : Fault) : Step α :=
  fun db => (.error e, db)

/-- A check that does not need the catalogue. -/
def check (result : Except Fault α) : Step α :=
  fun db => (result, db)

/-- A step that writes nothing. -/
def query (f : Catalogue → Except Fault α) : Step α :=
  fun db => (f db, db)

/-- One statement, which fails without writing. -/
def statement (f : Catalogue → Except Fault (α × Catalogue)) : Step α :=
  fun db => match f db with
    | .ok (a, db) => (.ok a, db)
    | .error e => (.error e, db)

/-- A unit of work: nothing stays written if the step fails. -/
def atomically (step : Step α) : Step α :=
  fun db => match step db with
    | (.ok a, db) => (.ok a, db)
    | (.error e, _) => (.error e, db)

@[simp] theorem pure_run (a : α) (db : Catalogue) : (pure a : Step α).run db = (.ok a, db) := rfl

@[simp] theorem fail_run (e : Fault) (db : Catalogue) :
    (fail e : Step α).run db = (.error e, db) := rfl

@[simp] theorem check_run (r : Except Fault α) (db : Catalogue) : (check r).run db = (r, db) := rfl

@[simp] theorem query_run (f : Catalogue → Except Fault α) (db : Catalogue) :
    (query f).run db = (f db, db) := rfl

theorem bind_run (step : Step α) (next : α → Step β) (db : Catalogue) :
    (step >>= next).run db = match step.run db with
      | (.ok a, db) => (next a).run db
      | (.error e, db) => (.error e, db) := rfl

/-- A statement that fails leaves the catalogue as it was. -/
theorem statement_error {f : Catalogue → Except Fault (α × Catalogue)} {db db' : Catalogue} {e : Fault}
    (h : (statement f).run db = (.error e, db')) : db' = db := by
  unfold run statement at h
  split at h <;> simp_all

/-- A unit of work that fails leaves the catalogue as it was. -/
theorem atomically_error {step : Step α} {db db' : Catalogue} {e : Fault}
    (h : (atomically step).run db = (.error e, db')) : db' = db := by
  unfold run atomically at h
  split at h <;> simp_all

end Step

end Recital
