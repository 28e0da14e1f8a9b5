import Recital.Catalogue.Table

/-!
# Tables keep their ids apart

* `Table.Sound` : the rows stand in ascending order of their ids, none above the last id given out.
  `Sound.insert?`, `Sound.put`, `Sound.erase`, `Sound.mapRows` : every write keeps this.
* `Table.Grows` : no id is lost, and a sound table stays sound; what an insertion or a replacement does.
* `Table.Allots` : a new id is given out, or none is; what every write does.
* `has_insert?`, `has_put`, `has_erase`, `has_mapRows` : which ids have a row after a write.
* `find?_insert?`, `find?_put`, `find?_mapRows`, … : which row an id has then.
-/

set_option autoImplicit false

namespace Recital.Table

variable {α : Type} [Keyed α] {t t' : Table α} {row new : α} {id k : Int} {f : α → α}

/-! ## Rows and ids -/

theorem has_iff : t.has id = true ↔ ∃ row ∈ t.rows, Keyed.id row = id := by
  simp [has]

theorem has_of_mem (h : row ∈ t.rows) : t.has (Keyed.id row) = true :=
  has_iff.2 ⟨row, h, rfl⟩

theorem mem_of_find? (h : t.find? id = some row) : row ∈ t.rows :=
  List.mem_of_find?_eq_some h

theorem id_of_find? (h : t.find? id = some row) : Keyed.id row = id := by
  simpa using List.find?_some h

theorem has_of_find? (h : t.find? id = some row) : t.has id = true := by
  rw [← id_of_find? h]
  exact has_of_mem (mem_of_find? h)

theorem find?_of_has (h : t.has id = true) : ∃ row, t.find? id = some row := by
  rw [has_eq_isSome_find?] at h
  exact Option.isSome_iff_exists.1 h

theorem find?_eq_none_of_has (h : t.has id = false) : t.find? id = none := by
  rw [has_eq_isSome_find?] at h
  exact Option.isNone_iff_eq_none.1 (Option.isSome_eq_false_iff.1 h)

theorem has_eq_false_of_find? (h : t.find? id = none) : t.has id = false := by
  rw [has_eq_isSome_find?, h]
  rfl

/-! ## Insertion -/

theorem lastId_of_insert?_eq_none (h : t.insert? row = none) : Text.maxInt64 ≤ t.lastId := by
  unfold insert? at h
  split at h
  · cases h
  · omega

/-- A new row is the given one under its new id. -/
theorem new_of_insert? (h : t.insert? row = some (new, t')) :
    new = Keyed.withId (t.lastId + 1) row ∧ t.lastId < Text.maxInt64 := by
  unfold insert? at h
  split at h
  · rename_i hlt
    simp only [Option.some.injEq, Prod.mk.injEq] at h
    exact ⟨h.1.symm, hlt⟩
  · cases h

theorem mem_insert? (h : t.insert? row = some (new, t')) {r : α} (hr : r ∈ t'.rows) :
    r ∈ t.rows ∨ r = new := by
  rw [(eq_of_insert? h).2] at hr
  simpa using hr

theorem has_insert? (h : t.insert? row = some (new, t')) :
    t'.has k = (t.has k || decide (Keyed.id new = k)) := by
  rw [(eq_of_insert? h).2]
  simp [has]

/-- What is found stays found. -/
theorem find?_insert? {old : α} (h : t.insert? row = some (new, t')) (hk : t.find? k = some old) :
    t'.find? k = some old := by
  rw [(eq_of_insert? h).2]
  unfold find? at hk ⊢
  rw [List.find?_append, hk]
  rfl

theorem find?_insert?_of_ne (h : t.insert? row = some (new, t')) (hk : k ≠ t.lastId + 1) :
    t'.find? k = t.find? k := by
  obtain ⟨hid, rfl⟩ := eq_of_insert? h
  have hnone : [new].find? (fun row => Keyed.id row = k) = none := by
    rw [List.find?_singleton, hid, if_neg]
    simpa using Ne.symm hk
  unfold find?
  rw [List.find?_append, hnone, Option.or_none]

/-! ## Replacement and removal -/

/-- The table with its rows changed in place. -/
def mapRows (t : Table α) (f : α → α) : Table α :=
  { t with rows := t.rows.map f }

theorem has_mapRows (hf : ∀ row, Keyed.id (f row) = Keyed.id row) :
    (t.mapRows f).has k = t.has k := by
  simp only [has, mapRows, List.any_map]
  congr 1
  funext row
  simp [hf]

theorem find?_mapRows (hf : ∀ row, Keyed.id (f row) = Keyed.id row) :
    (t.mapRows f).find? k = (t.find? k).map f := by
  unfold mapRows find?
  rw [List.find?_map]
  congr 2
  funext row
  simp [hf]

theorem put_eq_mapRows :
    t.put row = t.mapRows fun r => if Keyed.id r = Keyed.id row then row else r :=
  rfl

theorem id_put (r : α) : Keyed.id (if Keyed.id r = Keyed.id row then row else r) = Keyed.id r := by
  split
  · rename_i h
    exact h.symm
  · rfl

theorem has_put : (t.put row).has k = t.has k :=
  has_mapRows id_put

theorem mem_put {r : α} (hr : r ∈ (t.put row).rows) : r ∈ t.rows ∨ r = row := by
  rw [put_eq_mapRows] at hr
  obtain ⟨r', hr', rfl⟩ := List.mem_map.1 hr
  split
  · exact Or.inr rfl
  · exact Or.inl hr'

theorem find?_put : (t.put row).find? k =
    if k = Keyed.id row then (t.find? k).map fun _ => row else t.find? k :=
  find?_modify t (Keyed.id row) k (fun _ => row) fun _ _ => rfl

theorem find?_put_self (h : t.has (Keyed.id row) = true) :
    (t.put row).find? (Keyed.id row) = some row := by
  obtain ⟨old, hold⟩ := find?_of_has h
  rw [find?_put, if_pos rfl, hold, Option.map_some]

theorem find?_put_of_id (hrow : t.find? id = some row) (hid : Keyed.id new = Keyed.id row) :
    (t.put new).find? id = some new := by
  rw [find?_put, if_pos (hid.trans (id_of_find? hrow)).symm, hrow, Option.map_some]

theorem find?_put_of_ne (h : k ≠ Keyed.id row) : (t.put row).find? k = t.find? k :=
  find?_put.trans (if_neg h)

/-- Where a stored row is replaced, the new one is found instead of it, and every other one as before. -/
theorem find?_put_of_find? {old : α} (hold : t.find? id = some old)
    (hnew : Keyed.id new = Keyed.id old) (hrow : t.find? k = some row) :
    (k = id ∧ row = old ∧ (t.put new).find? k = some new) ∨
      (k ≠ id ∧ (t.put new).find? k = some row) := by
  have hid : Keyed.id new = id := hnew.trans (id_of_find? hold)
  rw [find?_put, hid, hrow]
  by_cases hk : k = id
  · subst hk
    have hsame : row = old := Option.some.inj (hrow.symm.trans hold)
    exact Or.inl ⟨rfl, hsame, if_pos rfl⟩
  · exact Or.inr ⟨hk, if_neg hk⟩

theorem mem_erase {r : α} : r ∈ (t.erase id).rows ↔ r ∈ t.rows ∧ Keyed.id r ≠ id := by
  simp [erase]

theorem has_erase : (t.erase id).has k = true ↔ t.has k = true ∧ k ≠ id := by
  constructor
  · intro h
    obtain ⟨r, hr, rfl⟩ := has_iff.1 h
    obtain ⟨hmem, hne⟩ := mem_erase.1 hr
    exact ⟨has_of_mem hmem, hne⟩
  · rintro ⟨h, hne⟩
    obtain ⟨r, hr, rfl⟩ := has_iff.1 h
    exact has_of_mem (mem_erase.2 ⟨hr, hne⟩)

theorem find?_erase_of_ne (h : k ≠ id) : (t.erase id).find? k = t.find? k :=
  (find?_erase t id k).trans (if_neg h)

theorem has_erase_self : (t.erase id).has id = false := by
  rw [has_eq_isSome_find?, find?_erase, if_pos rfl]
  rfl

/-! ## Sound tables -/

/-- The ids of the rows ascend to at most the last id given out, which is a 64-bit integer. -/
structure Sound (t : Table α) : Prop where
  ascending : t.rows.Pairwise fun a b => Keyed.id a < Keyed.id b
  le_lastId : ∀ row ∈ t.rows, Keyed.id row ≤ t.lastId
  lastId_le : t.lastId ≤ Text.maxInt64

theorem Sound.empty : Sound ({} : Table α) := by
  refine ⟨List.Pairwise.nil, ?_, ?_⟩
  · intro row h
    cases h
  · show (0 : Int) ≤ Text.maxInt64
    decide

/-- No id stands twice. -/
theorem Sound.nodup (h : t.Sound) : (t.rows.map Keyed.id).Nodup := by
  rw [List.Nodup, List.pairwise_map]
  exact h.ascending.imp fun hlt => Int.ne_of_lt hlt

theorem Sound.insert? (h : t.Sound) (hi : t.insert? row = some (new, t')) : t'.Sound := by
  obtain ⟨hid, rfl⟩ := eq_of_insert? hi
  have hlt := (new_of_insert? hi).2
  refine ⟨?_, ?_, by simp only; omega⟩
  · rw [List.pairwise_append]
    refine ⟨h.ascending, List.pairwise_singleton _ _, ?_⟩
    intro a ha b hb
    have := h.le_lastId a ha
    rw [List.mem_singleton.1 hb, hid]
    omega
  · intro r hr
    rcases List.mem_append.1 hr with hr | hr
    · have := h.le_lastId r hr
      simp only
      omega
    · rw [List.mem_singleton.1 hr]
      exact Int.le_of_eq hid

theorem Sound.lastId_lt (h : t.Sound) (hnext : t.lastId ≠ Text.maxInt64) : t.lastId < Text.maxInt64 := by
  have hle := h.lastId_le
  omega

/-- A new row gets an id that no row has had. -/
theorem Sound.has_next (h : t.Sound) (hi : t.insert? row = some (new, t')) :
    t.has (t.lastId + 1) = false ∧ t'.has (t.lastId + 1) = true := by
  constructor
  · rw [Bool.eq_false_iff]
    intro hhas
    obtain ⟨r, hr, hid⟩ := has_iff.1 hhas
    have := h.le_lastId r hr
    omega
  · rw [has_insert? hi, (eq_of_insert? hi).1, decide_eq_true rfl, Bool.or_true]

/-- Every row is the one that is found under its id. -/
theorem Sound.find?_of_mem (h : t.Sound) (hrow : row ∈ t.rows) : t.find? (Keyed.id row) = some row := by
  have hascending := h.ascending
  unfold find?
  generalize t.rows = rows at *
  induction rows with
  | nil => cases hrow
  | cons first rows ih =>
    obtain ⟨hfirst, hrest⟩ := List.pairwise_cons.1 hascending
    rcases List.mem_cons.1 hrow with rfl | hrow
    · exact List.find?_cons_of_pos (decide_eq_true rfl)
    · have hlt := hfirst row hrow
      rw [List.find?_cons_of_neg (by simpa using Int.ne_of_lt hlt)]
      exact ih hrow hrest

/-- A new row is found under its id. -/
theorem Sound.find?_insert? (h : t.Sound) (hi : t.insert? row = some (new, t')) :
    t'.find? (t.lastId + 1) = some new := by
  obtain ⟨hid, ht'⟩ := eq_of_insert? hi
  have hmem : new ∈ t'.rows := by
    rw [ht']
    exact List.mem_append_right _ (List.mem_singleton_self _)
  rw [← hid]
  exact (h.insert? hi).find?_of_mem hmem

theorem Sound.mapRows (h : t.Sound) (hf : ∀ row, Keyed.id (f row) = Keyed.id row) :
    (t.mapRows f).Sound := by
  refine ⟨?_, ?_, h.lastId_le⟩
  · simp only [Table.mapRows, List.pairwise_map, hf]
    exact h.ascending
  · intro r hr
    obtain ⟨r', hr', rfl⟩ := List.mem_map.1 hr
    rw [hf]
    exact h.le_lastId r' hr'

theorem Sound.put (h : t.Sound) : (t.put row).Sound :=
  h.mapRows id_put

theorem Sound.erase (h : t.Sound) : (t.erase id).Sound :=
  ⟨h.ascending.filter _, fun r hr => h.le_lastId r (mem_erase.1 hr).1, h.lastId_le⟩

/-! ## Growing tables -/

/-- No id is lost, and a sound table stays sound. -/
structure Grows (t t' : Table α) : Prop where
  has : ∀ {k : Int}, t.has k = true → t'.has k = true
  sound : t.Sound → t'.Sound

theorem Grows.refl (t : Table α) : t.Grows t :=
  ⟨fun h => h, fun h => h⟩

theorem Grows.insert? (h : t.insert? row = some (new, t')) : t.Grows t' :=
  ⟨fun hk => by rw [has_insert? h, hk, Bool.true_or], fun hs => hs.insert? h⟩

theorem Grows.put : t.Grows (t.put row) :=
  ⟨fun hk => by rw [has_put]; exact hk, fun hs => hs.put⟩

/-! ## Ids given out -/

/-- A new id is given out, the one after the last, or none is, and rows may go. -/
structure Allots (t : Table α) (gives : Bool) (t' : Table α) : Prop where
  given : gives = true → t'.lastId = t.lastId + 1 ∧
    t'.rows.map Keyed.id = t.rows.map Keyed.id ++ [t.lastId + 1]
  kept : gives = false → t'.lastId = t.lastId ∧
    List.Sublist (t'.rows.map Keyed.id) (t.rows.map Keyed.id)

theorem Allots.rests (hlast : t'.lastId = t.lastId)
    (hids : List.Sublist (t'.rows.map Keyed.id) (t.rows.map Keyed.id)) : t.Allots false t' :=
  ⟨nofun, fun _ => ⟨hlast, hids⟩⟩

theorem Allots.refl (t : Table α) : t.Allots false t :=
  .rests rfl (List.Sublist.refl _)

theorem Allots.insert? (h : t.insert? row = some (new, t')) : t.Allots true t' := by
  obtain ⟨hid, rfl⟩ := eq_of_insert? h
  refine ⟨fun _ => ⟨rfl, ?_⟩, nofun⟩
  rw [List.map_append, List.map_singleton, hid]

theorem Allots.mapRows (hf : ∀ row, Keyed.id (f row) = Keyed.id row) :
    t.Allots false (t.mapRows f) := by
  have hids : (t.mapRows f).rows.map Keyed.id = t.rows.map Keyed.id := by
    rw [Table.mapRows, List.map_map]
    exact List.map_congr_left fun row _ => hf row
  exact .rests rfl (hids ▸ List.Sublist.refl _)

theorem Allots.put : t.Allots false (t.put row) :=
  .mapRows id_put

theorem Allots.erase : t.Allots false (t.erase id) :=
  .rests rfl (List.filter_sublist.map Keyed.id)

end Recital.Table
