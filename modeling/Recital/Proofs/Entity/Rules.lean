import Recital.Entity.Rules

/-!
# What valid entities have

* `Text.Visible` : some character of a text is not white space.  `isBlank_eq_false_iff` : exactly the
  texts that are not blank have one.
* `firstBlank_eq_ok_iff` : no violation is found exactly when every text is visible.
* `Composer.validate_eq_ok_iff`, … : the texts that a valid entity shows.
-/

set_option autoImplicit false

namespace Recital

namespace Text

/-- Some character of the text is not white space. -/
def Visible (s : String) : Prop :=
  ∃ c ∈ s.toList, isWhiteSpace c = false

theorem isBlank_eq_false_iff {s : String} : isBlank s = false ↔ Visible s := by
  rw [← Bool.not_eq_true, isBlank_iff]
  simp [Visible]

end Text

open Text (Visible isBlank)

theorem firstBlank_eq_ok_iff {texts : List (String × Violation)} :
    firstBlank texts = .ok () ↔ ∀ entry ∈ texts, Visible entry.1 := by
  induction texts with
  | nil => simp [firstBlank]
  | cons entry texts ih =>
    obtain ⟨s, v⟩ := entry
    rw [List.forall_mem_cons, ← ih, ← Text.isBlank_eq_false_iff]
    cases hs : isBlank s <;> simp [firstBlank, hs]

theorem Composer.validate_eq_ok_iff {c : Composer} :
    c.validate = .ok () ↔ Visible c.fullName ∧ Visible c.shortName := by
  simp [Composer.validate, firstBlank_eq_ok_iff]

theorem Piece.validate_eq_ok_iff {p : Piece} : p.validate = .ok () ↔ Visible p.title := by
  simp [Piece.validate, firstBlank_eq_ok_iff]

theorem Programme.validate_eq_ok_iff {p : Programme} : p.validate = .ok () ↔ Visible p.title := by
  simp [Programme.validate, firstBlank_eq_ok_iff]

theorem Venue.validate_eq_ok_iff {v : Venue} :
    v.validate = .ok () ↔ Visible v.name ∧ Visible v.fullAddress ∧ Visible v.shortAddress := by
  simp [Venue.validate, firstBlank_eq_ok_iff]

theorem Event.validate_eq_ok_iff {e : Event} : e.validate = .ok () ↔ Visible e.title := by
  simp [Event.validate, firstBlank_eq_ok_iff]

end Recital
