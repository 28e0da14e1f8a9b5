import Recital.Entity.Basic
import Recital.Text.Integer

/-!
# Tables of rows with ids

A table keeps its rows in ascending order of their ids and the greatest id it has ever given out.

* `Table.find?`, `Table.has` : the row of an id.
* `Table.insert?` : a new row gets the next id; none is left after the greatest 64-bit integer.
* `Table.put`, `Table.erase` : the row of an id replaced or removed.
* `Table.has_eq_isSome_find?` : an id has a row exactly when one is found.
* `Table.find?_erase`, `Table.find?_modify` : what is found after a removal or a change.
* `Table.eq_of_insert?` : what a new row adds to a table.
-/

set_option autoImplicit false

namespace Recital

/-- Rows in ascending order of their ids, and the last id given out. -/
structure Table (α : Type) where
  rows : List α := []
  lastId : Int := 0
  deriving DecidableEq, Repr, Inhabited

namespace Table

variable {α : Type} [Keyed α]

/-- The row of an id. -/
def find? (t : Table α) (id : Int) : Option α :=
  t.rows.find? fun row => Keyed.id row = id

/-- Whether an id has a row. -/
def has (t : Table α) (id : Int) : Bool :=
  t.rows.any fun row => Keyed.id row = id

/-- The table with a new row, which gets the id after the last one. -/
def insert? (t : Table α) (row : α) : Option (α × Table α) :=
  if t.lastId < Text.maxInt64 then
    let row := Keyed.withId (t.lastId + 1) row
    some (row, { rows := t.rows ++ [row], lastId := t.lastId + 1 })
  else none

/-- The table with the row of an id changed. -/
def modify (t : Table α) (id : Int) (f : α → α) : Table α :=
  { t with rows := t.rows.map fun row => if Keyed.id row = id then f row else row }

/-- The table with a row in place of the one of its id. -/
def put (t : Table α) (row : α) : Table α :=
  t.modify (Keyed.id row) fun _ => row

/-- The table without the row of an id. -/
def erase (t : Table α) (id : Int) : Table α :=
  { t with rows := t.rows.filter fun row => Keyed.id row ≠ id }

theorem has_eq_isSome_find? (t : Table α) (id : Int) : t.has id = (t.find? id).isSome := by
  rw [Bool.eq_iff_iff]
  simp [has, find?]

theorem find?_erase (t : Table α) (id k : Int) :
    (t.erase id).find? k = if k = id then none else t.find? k := by
  unfold erase find?
  rw [List.find?_filter]
  split
  · subst k
    simp
  · congr 1
    funext row
    by_cases h : Keyed.id row = k <;> simp_all

/-- A change that keeps ids shows in the row of its id alone. -/
theorem find?_modify (t : Table α) (id k : Int) (f : α → α)
    (hf : ∀ row, Keyed.id row = id → Keyed.id (f row) = id) :
    (t.modify id f).find? k = if k = id then (t.find? k).map f else t.find? k := by
  unfold modify find?
  induction t.rows with
  | nil => simp
  | cons row rows ih =>
    simp only [List.map_cons, List.find?_cons]
    by_cases hr : Keyed.id row = id
    · have hfr := hf row hr
      by_cases hk : k = id
      · simp [hr, hfr, hk]
      · have hk' : ¬ id = k := fun h => hk h.symm
        simp only [hr, hfr, hk', if_true, decide_false]
        simpa [hk] using ih
    · by_cases hk : Keyed.id row = k
      · have : k ≠ id := fun h => hr (hk.trans h)
        simp [hk, this]
      · simp only [hr, hk, if_false, decide_false]
        exact ih

/-- A new row stands last, under the id after the last one. -/
theorem eq_of_insert? {t t' : Table α} {row new : α} (h : t.insert? row = some (new, t')) :
    Keyed.id new = t.lastId + 1 ∧ t' = { rows := t.rows ++ [new], lastId := t.lastId + 1 } := by
  unfold insert? at h
  split at h
  · simp only [Option.some.injEq, Prod.mk.injEq] at h
    obtain ⟨rfl, rfl⟩ := h
    exact ⟨Keyed.id_withId _ _, rfl⟩
  · simp at h

end Table

end Recital
