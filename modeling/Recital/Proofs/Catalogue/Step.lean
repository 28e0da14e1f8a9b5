import Recital.Catalogue.Plan

/-!
# What a step leads to

`Step.Meets` says of a step run on a catalogue what its value and the catalogue it leaves satisfy, and
what its fault and the catalogue it leaves satisfy if it fails.  One equivalence for each way in which
steps are made takes a step apart:

* `meets_pure`, `meets_fail`, `meets_check`, `meets_query`, `meets_statement` : single steps.
* `meets_bind` : the second step runs on what the first leaves, and is skipped if that fails.
* `meets_atomically` : what a failing unit of work leaves is the catalogue before it.
* `meets_after`, `meets_map` : plans.
* `Meets.run_ok`, `Meets.run_error` : how a step ends that cannot end otherwise.
-/

set_option autoImplicit false

namespace Recital

namespace Step

variable {α β : Type} {db : Catalogue} {Q : α → Catalogue → Prop} {E : Fault → Catalogue → Prop}

/-- Run on `db`, the step gives a value and leaves a catalogue with `Q`, or it gives a fault and leaves
a catalogue with `E`. -/
def Meets (step : Step α) (db : Catalogue) (Q : α → Catalogue → Prop)
    (E : Fault → Catalogue → Prop) : Prop :=
  match step.run db with
  | (.ok a, db') => Q a db'
  | (.error e, db') => E e db'

theorem Meets.mono {step : Step α} {Q' : α → Catalogue → Prop} {E' : Fault → Catalogue → Prop}
    (h : step.Meets db Q E) (hQ : ∀ a db', Q a db' → Q' a db') (hE : ∀ e db', E e db' → E' e db') :
    step.Meets db Q' E' := by
  unfold Meets at *
  split
  · rename_i a db' hrun
    rw [hrun] at h
    exact hQ a db' h
  · rename_i e db' hrun
    rw [hrun] at h
    exact hE e db' h

/-- A step that cannot give a fault gives a value. -/
theorem Meets.run_ok {step : Step α} (h : step.Meets db Q fun _ _ => False) :
    ∃ a db', step.run db = (.ok a, db') ∧ Q a db' := by
  unfold Meets at h
  split at h
  · rename_i a db' hrun
    exact ⟨a, db', hrun, h⟩
  · exact h.elim

/-- A step that cannot give a value gives a fault. -/
theorem Meets.run_error {step : Step α} (h : step.Meets db (fun _ _ => False) E) :
    ∃ e db', step.run db = (.error e, db') ∧ E e db' := by
  unfold Meets at h
  split at h
  · exact h.elim
  · rename_i e db' hrun
    exact ⟨e, db', hrun, h⟩

theorem meets_pure {a : α} : (pure a : Step α).Meets db Q E ↔ Q a db := Iff.rfl

theorem meets_fail {e : Fault} : (fail e : Step α).Meets db Q E ↔ E e db := Iff.rfl

theorem meets_check {r : Except Fault α} :
    (check r).Meets db Q E ↔ (∀ a, r = .ok a → Q a db) ∧ ∀ e, r = .error e → E e db := by
  unfold Meets
  rw [check_run]
  cases r <;> simp

theorem meets_query {f : Catalogue → Except Fault α} :
    (query f).Meets db Q E ↔ match f db with
      | .ok a => Q a db
      | .error e => E e db := by
  unfold Meets
  rw [query_run]
  cases f db <;> rfl

theorem meets_statement {f : Catalogue → Except Fault (α × Catalogue)} :
    (statement f).Meets db Q E ↔ match f db with
      | .ok (a, db') => Q a db'
      | .error e => E e db := by
  unfold Meets run statement
  cases f db <;> rfl

theorem meets_bind {step : Step α} {next : α → Step β} {Q : β → Catalogue → Prop} :
    (step >>= next).Meets db Q E ↔ step.Meets db (fun a db' => (next a).Meets db' Q E) E := by
  unfold Meets
  rw [bind_run]
  cases step.run db with
  | mk r db' => cases r <;> rfl

theorem meets_atomically {step : Step α} :
    (atomically step).Meets db Q E ↔ step.Meets db Q fun e _ => E e db := by
  unfold Meets run atomically
  cases step db with
  | mk r db' => cases r <;> rfl

end Step

namespace Plan

open Step

variable {α β : Type} {db : Catalogue} {Q : α → Catalogue → Prop} {E : Fault → Catalogue → Prop}

theorem meets_after {check : Except Fault Unit} {s : Step α} :
    (Plan.after check s).run.Meets db Q E ↔
      (check = .ok () → s.Meets db Q E) ∧ ∀ e, check = .error e → E e db := by
  cases check with
  | ok u => simp [after, run]
  | error e => simp [after, run, meets_fail]

theorem meets_map {plan : Plan α} {f : α → β} {Q : β → Catalogue → Prop} :
    (plan.map f).run.Meets db Q E ↔ plan.run.Meets db (fun a => Q (f a)) E := by
  cases plan with
  | ok s => exact meets_bind
  | error e => exact Iff.rfl

end Plan

end Recital
