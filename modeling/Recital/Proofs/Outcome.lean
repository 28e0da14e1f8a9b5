/-!
# Computations that succeed

* `map_eq_ok_iff`, `bind_eq_ok_iff` : a computation succeeds if its parts do.
-/

set_option autoImplicit false

namespace Recital

variable {ε α β : Type} {u : Except ε α} {b : β}

theorem map_eq_ok_iff {f : α → β} : u.map f = .ok b ↔ ∃ a, u = .ok a ∧ f a = b := by
  cases u <;> simp [Except.map]

theorem bind_eq_ok_iff {f : α → Except ε β} : (u >>= f) = .ok b ↔ ∃ a, u = .ok a ∧ f a = .ok b := by
  cases u <;> simp [bind, Except.bind]

theorem eq_ok_of_toOption {a : α} (h : u.toOption = some a) : u = .ok a := by
  cases u with
  | error e => cases h
  | ok b => exact congrArg Except.ok (Option.some.inj h)

end Recital
