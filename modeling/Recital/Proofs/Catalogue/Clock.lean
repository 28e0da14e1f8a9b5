import Recital.Proofs.Catalogue.Listing

/-!
# Catalogues that differ in times

The rows of events tell when they were made and last changed.  No rule and no other row looks at that.

* `julianMillis?_stored` : a stored instant is no word for the current time.
* `EventRow.untimed`, `Catalogue.untimed` : rows and catalogues without these times.
* `Catalogue.Alike` : two readable catalogues that differ in nothing else.
* `Alike.has`, `Alike.count`, `Alike.find?` : the same is asked of them.
* `Alike.mapEvents`, `Alike.putEvent`, … : they stay alike when the same is written to them.
-/

set_option autoImplicit false

namespace Recital

/-! ## Stored dates are no words -/

namespace JulianDay

/-- A stored instant starts with a digit or a sign. -/
theorem head_stored (i : Instant) :
    ∃ c cs, i.stored.toList = c :: cs ∧ '+'.toNat ≤ c.toNat ∧ c.toNat ≤ '9'.toNat := by
  rw [Instant.toList_stored]
  unfold Instant.yearText
  split
  · obtain ⟨c, cs, hpadded, hdigit⟩ := Text.padded_eq_cons 4 i.year.toNat
    rw [hpadded]
    rw [Text.isDigit_eq, Char.isDigit, Bool.and_eq_true, decide_eq_true_eq, decide_eq_true_eq] at hdigit
    have hlow : '0'.toNat ≤ c.toNat := hdigit.1
    exact ⟨c, _, rfl, Nat.le_trans (by decide) hlow, hdigit.2⟩
  split
  · exact ⟨'-', _, rfl, by decide, by decide⟩
  · exact ⟨'+', _, rfl, by decide, by decide⟩

theorem isCurrent_of_head {c : Char} {cs : List Char} (h : c.toNat ≤ '9'.toNat) :
    isCurrent (c :: cs) = false := by
  have hlower : c.toLower = c := by
    unfold Char.toLower
    refine dif_neg fun hupper => ?_
    have hA : 'A'.toNat ≤ c.toNat := hupper.1
    exact absurd (Nat.le_trans hA h) (by decide)
  have hne : ∀ d rest, '9'.toNat < d.toNat → String.ofList ((c :: cs).map Char.toLower) ≠
      String.ofList (d :: rest) := by
    intro d rest hd heq
    have hhead := (List.cons.inj (String.ofList_injective heq)).1
    rw [hlower] at hhead
    subst hhead
    exact absurd h (Nat.not_le_of_lt hd)
  simp only [isCurrent, Bool.or_eq_false_iff, decide_eq_false_iff_not]
  exact ⟨⟨hne 'n' ['o', 'w'] (by decide), hne 's' ['u', 'b', 's', 'e', 'c'] (by decide)⟩,
    hne 's' ['u', 'b', 's', 'e', 'c', 'o', 'n', 'd'] (by decide)⟩

/-- A stored instant is read alike at any time. -/
theorem julianMillis?_stored (current : Option Int) (i : Instant) :
    julianMillis? current i.stored = ofInstant? i := by
  obtain ⟨c, cs, hstored, hlow, hhigh⟩ := head_stored i
  have hnul : c ≠ '\x00' := by
    rintro rfl
    exact absurd hlow (by decide)
  have hword : isCurrent (i.stored.toList.takeWhile fun c => c ≠ '\x00') = false := by
    rw [hstored, List.takeWhile_cons, if_pos (decide_eq_true hnul)]
    exact isCurrent_of_head hhigh
  simp only [ofInstant?, julianMillis?, hword, Bool.false_eq_true, if_false]

end JulianDay

/-! ## Catalogues without times -/

/-- The row without its times. -/
def EventRow.untimed (row : EventRow) : EventRow :=
  { row with createdAt := "", updatedAt := "" }

/-- The event of a row is not told by its times. -/
theorem EventRow.event_eq_of_untimed {row row' : EventRow} (h : row.untimed = row'.untimed) :
    row.event = row'.event := by
  show row.untimed.event = row'.untimed.event
  rw [h]

theorem EventRow.untimed_without (row : EventRow) (r : EventRow.Reference) (id : Int) :
    (row.without r id).untimed = row.untimed.without r id := by
  cases r <;> exact apply_ite EventRow.untimed _ _ _

theorem Table.mapRows_congr {α : Type} [Keyed α] {t t' : Table α} {f g : α → α}
    (hrows : t.rows.map f = t'.rows.map g) (hlastId : t.lastId = t'.lastId) :
    t.mapRows f = t'.mapRows g := by
  rw [mapRows, mapRows, hrows, hlastId]

namespace Catalogue

/-- The catalogue without the times of its events. -/
def untimed (db : Catalogue) : Catalogue :=
  { db with events := db.events.mapRows EventRow.untimed }

/-- The catalogues are readable, and differ in the times of events only. -/
structure Alike (db db' : Catalogue) : Prop where
  composers : db.composers = db'.composers
  pieces : db.pieces = db'.pieces
  programmes : db.programmes = db'.programmes
  slots : db.slots = db'.slots
  venues : db.venues = db'.venues
  events : db.events.mapRows EventRow.untimed = db'.events.mapRows EventRow.untimed
  biographies : db.biographies = db'.biographies
  readable : db.Readable
  readable' : db'.Readable

namespace Alike

variable {db db' : Catalogue} {row row' : EventRow} {id : Int} {f : EventRow → EventRow}

theorem refl (h : db.Readable) : db.Alike db :=
  ⟨rfl, rfl, rfl, rfl, rfl, rfl, rfl, h, h⟩

theorem untimed_eq (h : db.Alike db') : db.untimed = db'.untimed := by
  obtain ⟨composers, pieces, programmes, slots, venues, events, biographies⟩ := db
  obtain ⟨composers', pieces', programmes', slots', venues', events', biographies'⟩ := db'
  obtain ⟨rfl, rfl, rfl, rfl, rfl, hevents, rfl, -, -⟩ := h
  exact congrArg (Catalogue.mk composers pieces programmes slots venues · biographies) hevents

theorem rows (h : db.Alike db') :
    db.events.rows.map EventRow.untimed = db'.events.rows.map EventRow.untimed :=
  congrArg Table.rows h.events

theorem lastId (h : db.Alike db') : db.events.lastId = db'.events.lastId := by
  have hlastId := congrArg Table.lastId h.events
  exact hlastId

/-- An event is found in both, or in neither. -/
theorem find? (h : db.Alike db') (id : Int) :
    (db.events.find? id = none ∧ db'.events.find? id = none) ∨
      ∃ row row', db.events.find? id = some row ∧ db'.events.find? id = some row' ∧
        row.untimed = row'.untimed ∧ row.Readable ∧ row'.Readable := by
  have hfind : (db.events.find? id).map EventRow.untimed =
      (db'.events.find? id).map EventRow.untimed := by
    rw [← Table.find?_mapRows (f := EventRow.untimed) fun _ => rfl, h.events, Table.find?_mapRows]
    exact fun _ => rfl
  cases hrow : db.events.find? id with
  | none =>
    rw [hrow] at hfind
    exact Or.inl ⟨rfl, Option.map_eq_none_iff.1 hfind.symm⟩
  | some row =>
    rw [hrow] at hfind
    obtain ⟨row', hrow', huntimed⟩ := Option.map_eq_some_iff.1 hfind.symm
    exact Or.inr ⟨row, row', rfl, hrow', huntimed.symm, h.readable row (Table.mem_of_find? hrow),
      h.readable' row' (Table.mem_of_find? hrow')⟩

/-! ### What is asked -/

theorem has (h : db.Alike db') (kind : Kind) (id : Int) : db.has kind id = db'.has kind id := by
  cases kind with
  | composer => exact congrArg (Table.has · id) h.composers
  | piece => exact congrArg (Table.has · id) h.pieces
  | programme => exact congrArg (Table.has · id) h.programmes
  | venue => exact congrArg (Table.has · id) h.venues
  | event =>
    show db.events.has id = db'.events.has id
    rw [← Table.has_mapRows (f := EventRow.untimed) fun _ => rfl, h.events, Table.has_mapRows]
    exact fun _ => rfl

theorem refers (h : db.Alike db') (kind : Kind) (reference : Option Int) :
    db.refers kind reference = db'.refers kind reference := by
  cases reference with
  | none => rfl
  | some id => exact h.has kind id

theorem refers_row (h : db.Alike db') (hrow : row.untimed = row'.untimed) :
    Stored.refers db row = Stored.refers db' row' := by
  show (db.refers .venue row.untimed.venueId && db.refers .programme row.untimed.programmeId) =
    (db'.refers .venue row'.untimed.venueId && db'.refers .programme row'.untimed.programmeId)
  rw [hrow, h.refers, h.refers]

/-- What is counted of events is not told by their times. -/
theorem countP (h : db.Alike db') {p : EventRow → Bool} (hp : ∀ row, p row.untimed = p row) :
    db.events.rows.countP p = db'.events.rows.countP p := by
  have hcount : ∀ l : List EventRow, l.countP p = (l.map EventRow.untimed).countP p := by
    intro l
    rw [List.countP_map]
    exact congrArg (List.countP · l) (funext fun row => (hp row).symm)
  rw [hcount, hcount db'.events.rows, h.rows]

theorem count (h : db.Alike db') (dependency : Dependency) (id : Int) :
    dependency.count db id = dependency.count db' id := by
  cases dependency with
  | composerPieces => exact congrArg (fun t : Table Piece => t.rows.countP _) h.pieces
  | pieceProgrammes =>
    exact congrArg (fun slots : List Slot =>
      ((slots.filter fun s => s.pieceId = id).map Slot.programmeId).eraseDups.length) h.slots
  | venuePublishedEvents => exact h.countP fun _ => rfl
  | programmePublishedEvents => exact h.countP fun _ => rfl
  | programmePieces =>
    exact congrArg (fun slots : List Slot =>
      (slots.filter fun s => s.programmeId = id).length) h.slots

/-! ### What is written -/

/-- A change of every row that its times do not tell. -/
theorem mapEvents (h : db.Alike db') (hf : ∀ row, (f row).untimed = f row.untimed)
    (hread : ∀ row : EventRow, row.Readable → (f row).Readable) :
    { db with events := db.events.mapRows f }.Alike { db' with events := db'.events.mapRows f } := by
  have hrows : ∀ l : List EventRow,
      (l.map f).map EventRow.untimed = (l.map EventRow.untimed).map f := by
    intro l
    rw [List.map_map, List.map_map]
    exact List.map_congr_left fun row _ => hf row
  refine { h with events := ?_, readable := ?_, readable' := ?_ }
  · refine Table.mapRows_congr ?_ h.lastId
    exact (hrows _).trans ((congrArg _ h.rows).trans (hrows _).symm)
  · intro r hr
    obtain ⟨old, hold, rfl⟩ := List.mem_map.1 hr
    exact hread old (h.readable old hold)
  · intro r hr
    obtain ⟨old, hold, rfl⟩ := List.mem_map.1 hr
    exact hread old (h.readable' old hold)

/-- A removed venue or programme is forgotten by the same events. -/
theorem withoutReference (h : db.Alike db') (r : EventRow.Reference) (id : Int) :
    { db with events := Statement.withoutReference r id db.events }.Alike
      { db' with events := Statement.withoutReference r id db'.events } :=
  h.mapEvents (fun row => row.untimed_without r id) fun _ hread => hread.without

theorem putEvent (h : db.Alike db') (hrow : row.untimed = row'.untimed) (hread : row.Readable)
    (hread' : row'.Readable) :
    { db with events := db.events.put row }.Alike { db' with events := db'.events.put row' } := by
  have hput : ∀ (t : Table EventRow) (row : EventRow),
      (t.put row).mapRows EventRow.untimed = (t.mapRows EventRow.untimed).put row.untimed := by
    intro t row
    simp only [Table.put_eq_mapRows, Table.mapRows, List.map_map]
    congr 1
    refine List.map_congr_left fun r _ => ?_
    exact apply_ite EventRow.untimed _ _ _
  refine { h with events := ?_, readable := ?_, readable' := ?_ }
  · rw [hput, hput, h.events, hrow]
  · intro r hr
    rcases Table.mem_put hr with hr | rfl
    · exact h.readable r hr
    · exact hread
  · intro r hr
    rcases Table.mem_put hr with hr | rfl
    · exact h.readable' r hr
    · exact hread'

theorem appendEvent (h : db.Alike db') (hrow : row.untimed = row'.untimed) (hread : row.Readable)
    (hread' : row'.Readable) (lastId : Int) :
    { db with events := { rows := db.events.rows ++ [row], lastId := lastId } }.Alike
      { db' with events := { rows := db'.events.rows ++ [row'], lastId := lastId } } := by
  refine { h with events := ?_, readable := ?_, readable' := ?_ }
  · refine congrArg (Table.mk · lastId) ?_
    rw [List.map_append, List.map_append, h.rows, List.map_singleton, List.map_singleton, hrow]
  · intro r hr
    rcases List.mem_append.1 hr with hr | hr
    · exact h.readable r hr
    · rw [List.mem_singleton.1 hr]
      exact hread
  · intro r hr
    rcases List.mem_append.1 hr with hr | hr
    · exact h.readable' r hr
    · rw [List.mem_singleton.1 hr]
      exact hread'

theorem eraseEvent (h : db.Alike db') (id : Int) :
    { db with events := db.events.erase id }.Alike { db' with events := db'.events.erase id } := by
  have herase : ∀ l : List EventRow, (l.filter fun r => Keyed.id r ≠ id).map EventRow.untimed =
      (l.map EventRow.untimed).filter fun r => Keyed.id r ≠ id := by
    intro l
    rw [List.filter_map]
    rfl
  refine { h with events := ?_, readable := ?_, readable' := ?_ }
  · refine Table.mapRows_congr ?_ h.lastId
    exact (herase _).trans ((congrArg _ h.rows).trans (herase _).symm)
  · exact fun r hr => h.readable r (Table.mem_erase.1 hr).1
  · exact fun r hr => h.readable' r (Table.mem_erase.1 hr).1

end Alike

end Catalogue

end Recital
