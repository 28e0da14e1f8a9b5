import Recital.Text.Integer

/-!
# Scanners

A scanner takes the rest of a text and gives what it read and what follows.

* `mark?` : one given character; `mark?_eq_some_iff` : it stands at the start, and the rest follows.
* `sign` : an optional sign.
* `field?` : a number of a fixed number of digits between two bounds.
* `length_of_field?` : a field takes exactly its digits.
-/

set_option autoImplicit false

namespace Recital.Text

/-- A value read from the start of a text, and the text after it. -/
abbrev Scanner (α : Type) := List Char → Option (α × List Char)

/-- One given character. -/
def mark? (c : Char) : List Char → Option (List Char)
  | [] => none
  | d :: cs => if d = c then some cs else none

theorem mark?_eq_some_iff {c : Char} {cs rest : List Char} :
    mark? c cs = some rest ↔ cs = c :: rest := by
  cases cs with
  | nil => simp [mark?]
  | cons d cs => by_cases h : d = c <;> simp [mark?, h]

/-- A sign, if there is one: whether it is minus, and the text after it. -/
def sign : List Char → Bool × List Char
  | '+' :: cs => (false, cs)
  | '-' :: cs => (true, cs)
  | cs => (false, cs)

/-- Exactly `width` digits whose number is from `low` to `high`. -/
def field? (width low high : Nat) : Scanner Nat := fun cs =>
  match natural? (cs.take width) with
  | some n =>
    if (cs.take width).length = width ∧ low ≤ n ∧ n ≤ high then some (n, cs.drop width) else none
  | none => none

/-- A field lies between its bounds, and what follows is shorter by its width. -/
theorem length_of_field? {width low high n : Nat} {cs rest : List Char}
    (h : field? width low high cs = some (n, rest)) :
    rest.length + width = cs.length ∧ low ≤ n ∧ n ≤ high := by
  unfold field? at h
  split at h
  · split at h
    · rename_i m _ hw
      simp only [List.length_take] at hw
      simp only [Option.some.injEq, Prod.mk.injEq] at h
      obtain ⟨rfl, rfl⟩ := h
      simp only [List.length_drop]
      omega
    · simp at h
  · simp at h

end Recital.Text
