import Recital.Catalogue.Step

/-!
# Plans

A `Plan` is what a use case does: checks that need no connection to the catalogue, then a step on it.

* `Plan.run` : the plan on an open connection.
* `Plan.refused` : the fault of a plan on a closed connection, where every step is a fault of the
  database; the checks before it still come first.
-/

set_option autoImplicit false

namespace Recital

/-- Checks that need no connection, and then a step. -/
def Plan (α : Type) : Type :=
  Except Fault (Step α)

namespace Plan

variable {α β : Type}

/-- A plan without checks. -/
def step (s : Step α) : Plan α :=
  .ok s

/-- A check before a plan. -/
def after (check : Except Fault Unit) (s : Step α) : Plan α :=
  match check with
  | .ok () => .ok s
  | .error e => .error e

/-- The plan with its value changed. -/
def map (f : α → β) (plan : Plan α) : Plan β :=
  match plan with
  | .ok s => .ok (s >>= fun a => pure (f a))
  | .error e => .error e

/-- The plan on an open connection. -/
def run (plan : Plan α) : Step α :=
  match plan with
  | .ok s => s
  | .error e => Step.fail e

/-- The fault of the plan on a closed connection. -/
def refused (plan : Plan α) : Fault :=
  match plan with
  | .ok _ => .database
  | .error e => e

end Plan

end Recital
