import Recital.Proofs.Http.Site

/-!
# What becomes of an event

* `Order.Concerns` : the orders that are about an event, and those that remove its venue or programme.
* `EventBecomes` : what an order makes of the row of an event, one constructor for each of them; a row
  that an order does not concern is kept as it is.
* `Effect.becomes` : that is what the effect of every order makes of it.
-/

set_option autoImplicit false

namespace Recital

namespace Http

open Desk

/-- Whether an order is about the event of a row, or removes its venue or its programme. -/
def Order.Concerns (row : EventRow) : Order → Prop
  | .event (.update id _) => id = row.id
  | .event (.updateNotes id _) => id = row.id
  | .event (.draft id) => id = row.id
  | .event (.publish id) => id = row.id
  | .event (.archive id) => id = row.id
  | .event (.delete id) => id = row.id
  | .venue (.delete id) => row.venueId = some id
  | .programme (.delete id) => row.programmeId = some id
  | _ => False

/-- What an order makes of the row of an event at the moment `now`. -/
inductive EventBecomes (now : Instant) (row : EventRow) (order : Order) : Option EventRow → Prop where
  | kept (hother : ¬ order.Concerns row) : EventBecomes now row order (some row)
  | edited {command : EventCommand} {details : EventDetails}
      (horder : order = .event (.update row.id command)) (hdraft : row.status = .draft) :
      EventBecomes now row order (some (row.edited now details))
  | annotated {notes : Option String} (horder : order = .event (.updateNotes row.id notes)) :
      EventBecomes now row order (some (row.annotated now notes))
  | moved {status : Status} (horder : order = .event (.moving row.id status)) :
      EventBecomes now row order (some (row.moved now status))
  | venueRemoved {id : Int} (horder : order = .venue (.delete id)) (hvenue : row.venueId = some id)
      (hs : row.status ≠ .published) : EventBecomes now row order (some { row with venueId := none })
  | programmeRemoved {id : Int} (horder : order = .programme (.delete id))
      (hprogramme : row.programmeId = some id) (hs : row.status ≠ .published) :
      EventBecomes now row order (some { row with programmeId := none })
  | removed (horder : order = .event (.delete row.id)) (hs : row.status ≠ .published) :
      EventBecomes now row order none

variable {now : Instant} {db db' : Catalogue} {order : Order} {r : Response} {id : Int} {row : EventRow}

theorem Order.not_concerns_of_isReading (h : order.isReading = true) : ¬ order.Concerns row := by
  intro hconcerns
  unfold Order.Concerns at hconcerns
  split at hconcerns <;> first | cases h | exact hconcerns

/-- **What the effect of an order makes of the row of an event.** -/
theorem Order.Effect.becomes (h : order.Effect now db r db') (hrow : db.events.find? id = some row) :
    EventBecomes now row order (db'.events.find? id) := by
  have hid : row.id = id := Table.id_of_find? hrow
  have hmem := Table.mem_of_find? hrow
  have hkept : ¬ order.Concerns row → EventBecomes now row order (db.events.find? id) := by
    intro hother
    rw [hrow]
    exact .kept hother
  -- a row that is replaced is the one of the event, or the event is not concerned
  have hput : ∀ {k : Int} {old new : EventRow}, db.events.find? k = some old → new.id = old.id →
      EventBecomes now old order (some new) → (k ≠ row.id → ¬ order.Concerns row) →
      EventBecomes now row order ((db.events.put new).find? id) := by
    intro k old new hold hnew hsame hother
    rcases Table.find?_put_of_find? hold hnew hrow with ⟨hk, rfl, hfind⟩ | ⟨hk, hfind⟩
    · rw [hfind]
      exact hsame
    · rw [hfind]
      exact .kept (hother fun h => hk (hid.symm.trans h.symm))
  cases h with
  | reading hreading hsuccess => exact hkept (not_concerns_of_isReading hreading)
  | createEvent hvenue htitle hrefers hnew hmade =>
    rw [Table.find?_insert? hnew hrow]
    exact .kept nofun
  | updateEvent hold hdraft hvenue htitle hrefers hmade hshown =>
    obtain rfl := Table.id_of_find? hold
    exact hput hold rfl (.edited rfl hdraft) fun hk => hk
  | updateNotes hold hmade =>
    obtain rfl := Table.id_of_find? hold
    exact hput hold rfl (.annotated rfl) fun hk => hk
  | draft hold hmade =>
    obtain rfl := Table.id_of_find? hold
    exact hput hold rfl (.moved rfl) fun hk => hk
  | archive hold hmade =>
    obtain rfl := Table.id_of_find? hold
    exact hput hold rfl (.moved rfl) fun hk => hk
  | publish hold htitle hcomplete hpieced hmade =>
    obtain rfl := Table.id_of_find? hold
    exact hput hold rfl (.moved rfl) fun hk => hk
  | @deleteEvent k old hold hdeletable =>
    rw [Table.find?_erase]
    by_cases hk : id = k
    · subst hk
      rw [if_pos rfl]
      obtain rfl : row = old := Option.some.inj (hrow.symm.trans hold)
      subst hid
      exact .removed rfl hdeletable
    · rw [if_neg hk]
      exact hkept fun h => hk (hid.symm.trans h.symm)
  | @deleteVenue k hhas hfree =>
    rw [Statement.find?_withoutReference, hrow, Option.map_some]
    by_cases hvenue : row.venueId = some k
    · rw [EventRow.without_of_eq (r := .venue) hvenue]
      exact .venueRemoved rfl hvenue fun hs => hfree ⟨row, hmem, hs, hvenue⟩
    · rw [EventRow.without_of_ne (r := .venue) hvenue]
      exact .kept hvenue
  | @deleteProgramme k hhas hfree =>
    rw [Statement.find?_withoutReference, hrow, Option.map_some]
    by_cases hprogramme : row.programmeId = some k
    · rw [EventRow.without_of_eq (r := .programme) hprogramme]
      exact .programmeRemoved rfl hprogramme fun hs => hfree ⟨row, hmem, hs, hprogramme⟩
    · rw [EventRow.without_of_ne (r := .programme) hprogramme]
      exact .kept hprogramme
  | _ => exact hkept nofun

end Http

end Recital
