import Recital.Proofs.Http.Allotment
import Recital.Proofs.Http.Fulfilment

/-!
# Orders that are given again

* `EventRow.unstamped`, `Catalogue.unstamped` : rows and catalogues without the times of the last change.
* `Table.put_put`, `Biographies.put_put`, `replacedSlots_replacedSlots` : what is put twice is put once.
* `Resolved.again` : an intent that makes nothing stands for the same entity again.
* `Effect.again` : an order that puts something in place of what is stored, and makes nothing, has its effect
  again, with the same response, and leaves the same but for the time of the last change.
-/

set_option autoImplicit false

namespace Recital

/-! ## Times of the last change -/

/-- The row without the time of its last change. -/
def EventRow.unstamped (row : EventRow) : EventRow :=
  { row with updatedAt := "" }

namespace EventRow

/-- The event of a row is not told by the time of its last change. -/
theorem event_eq_of_unstamped {row row' : EventRow} (h : row.unstamped = row'.unstamped) :
    row.event = row'.event := by
  show row.unstamped.event = row'.unstamped.event
  rw [h]

variable (row : EventRow) (now now' : Instant)

/-! Rows that are written again are told apart by the time only. -/

theorem unstamped_edited (details : EventDetails) :
    ((row.edited now details).edited now' details).unstamped = (row.edited now details).unstamped := by
  simp only [unstamped, edited]

theorem unstamped_annotated (notes : Option String) :
    ((row.annotated now notes).annotated now' notes).unstamped =
      (row.annotated now notes).unstamped := by
  simp only [unstamped, annotated]

theorem unstamped_moved (status : Status) :
    ((row.moved now status).moved now' status).unstamped = (row.moved now status).unstamped := by
  simp only [unstamped, moved]

end EventRow

/-- The catalogue without the times of the last changes. -/
def Catalogue.unstamped (db : Catalogue) : Catalogue :=
  { db with events := db.events.mapRows EventRow.unstamped }

/-! ## What is put twice -/

namespace Table

variable {α : Type} [Keyed α] {t : Table α} {a b : α}

/-- The last of two rows of one id stays. -/
theorem put_put (hid : Keyed.id b = Keyed.id a) : (t.put a).put b = t.put b := by
  rw [put_eq_mapRows, put_eq_mapRows, put_eq_mapRows, mapRows, mapRows, List.map_map]
  congr 1
  refine List.map_congr_left fun row _ => ?_
  rw [Function.comp_apply, hid]
  by_cases h : Keyed.id row = Keyed.id a
  · rw [if_pos h, if_pos rfl, if_pos h]
  · rw [if_neg h, if_neg h]

/-- A change that does not tell two rows apart does not tell which of them has been put. -/
theorem mapRows_put_congr {f : α → α} (hid : Keyed.id b = Keyed.id a) (h : f b = f a) :
    (t.put b).mapRows f = (t.put a).mapRows f := by
  rw [put_eq_mapRows, put_eq_mapRows, mapRows, mapRows, mapRows, mapRows, List.map_map, List.map_map]
  congr 1
  refine List.map_congr_left fun row _ => ?_
  rw [Function.comp_apply, Function.comp_apply, hid]
  by_cases hrow : Keyed.id row = Keyed.id a
  · rw [if_pos hrow, if_pos hrow, h]
  · rw [if_neg hrow, if_neg hrow]

end Table

namespace Biographies

variable {b : Biographies} {row r : Biography}

/-- The row of a variant that has been put has the text that has been put. -/
theorem content_of_mem_put (hr : r ∈ (b.put row).rows) (hvariant : r.variant = row.variant) :
    r.content = row.content := by
  unfold put at hr
  split at hr
  · obtain ⟨old, -, rfl⟩ := List.mem_map.1 hr
    split at hvariant
    · rename_i hold
      rw [if_pos hold]
    · rename_i hold
      exact absurd hvariant hold
  · rename_i hnone
    rcases List.mem_append.1 hr with hr | hr
    · exact absurd (List.any_eq_true.2 ⟨r, hr, decide_eq_true hvariant⟩) hnone
    · rw [List.mem_singleton.1 hr]

/-- A text put twice is put once. -/
theorem put_put : (b.put row).put row = b.put row := by
  have hhas : (b.put row).has row.variant = true := by
    rw [has_eq_isSome_get?, get?_put, if_pos rfl]
    rfl
  have hsame : (b.put row).modify row.variant row.content = b.put row := by
    refine congrArg Biographies.mk ((List.map_congr_left fun r hr => ?_).trans (List.map_id _))
    split
    · rename_i hvariant
      rw [← content_of_mem_put hr hvariant]
      rfl
    · rfl
  rw [put, if_pos hhas, hsame]

end Biographies

namespace Catalogue

variable {a b : EventRow}

theorem unstamped_put (db : Catalogue) (hid : Keyed.id b = Keyed.id a) (h : b.unstamped = a.unstamped) :
    { db with events := (db.events.put a).put b }.unstamped =
      { db with events := db.events.put a }.unstamped := by
  have hevents := Table.mapRows_put_congr (t := db.events) (f := EventRow.unstamped) hid h
  rw [Table.put_put hid]
  exact congrArg (fun t => { db with events := t }) hevents

/-- The slots that have been replaced are replaced by themselves. -/
theorem replacedSlots_replacedSlots (db : Catalogue) (id : Int) (pieceIds : List Int) :
    { db with slots := db.replacedSlots id pieceIds }.replacedSlots id pieceIds =
      db.replacedSlots id pieceIds := by
  have hnone : (slotsFor id (sequenced pieceIds)).filter (fun s => s.programmeId ≠ id) = [] := by
    refine List.filter_eq_nil_iff.2 fun s hs => ?_
    simpa using (mem_slotsFor hs).1
  unfold replacedSlots
  rw [List.filter_append, List.filter_filter, hnone, List.append_nil]
  simp only [Bool.and_self]

end Catalogue

/-! ## Intents -/

section Resolving

variable {db db' : Catalogue}

/-- **An intent that makes nothing stands for the same entity again**, and leaves its table as it is. -/
theorem Resolved.again {α : Type} [Resolvable α] {intent : Intent α} {value : α} {t : Table α}
    (h : Resolved db intent value t) (hcreates : intent.creates = false)
    (htable : Stored.table db' = t) (hrefers : Stored.refers db' intent.data = true) :
    Resolved db' intent value t := by
  cases h with
  | selected hop hrow =>
    rw [← htable] at hrow ⊢
    exact .selected hop hrow
  | created hop hvalid _ hnew =>
    rw [Intent.creates, hop] at hcreates
    cases hcreates
  | updated hop hvalid _ hhas =>
    have hsame : (Stored.table db').put intent.data = (Stored.table db).put intent.data := by
      rw [htable, Table.put_put rfl]
    rw [← hsame]
    refine .updated hop hvalid hrefers ?_
    rw [htable, Table.has_put]
    exact hhas

theorem Desk.VenueResolved.again {command : EventCommand} {details : EventDetails} {t : Table Venue}
    (h : VenueResolved db command details t) (hcreates : command.venue.any Intent.creates = false)
    (hvenues : db'.venues = t) : VenueResolved db' command details t := by
  cases h with
  | given hnone =>
    rw [← hvenues]
    exact .given hnone
  | resolved hsome hvenue =>
    rw [hsome] at hcreates
    exact .resolved hsome (hvenue.again hcreates hvenues rfl)

end Resolving

/-- An event is shown with its programme whatever the other events are. -/
theorem Listing.withProgramme_run_events (e : Event) (db : Catalogue) (t : Table EventRow) :
    (withProgramme e).run { db with events := t } =
      (((withProgramme e).run db).1, { db with events := t }) := by
  have htable : ∀ db : Catalogue, Stored.table (α := Programme) db = db.programmes := fun _ => rfl
  unfold withProgramme
  split
  · rfl
  · simp only [programmeWithPieces, Statement.fetch, piecesOf, Step.bind_run, Step.query_run, htable]
    cases db.programmes.find? _ with
    | none => rfl
    | some p => rfl

namespace Http

variable {now : Instant} {db db' : Catalogue} {order : Order} {r : Response}

/-- **What an order puts in place of what is stored stays there when it is given again.** -/
theorem Order.Effect.again (now' : Instant) (h : order.Effect now db r db') (hputs : order.puts = true)
    (hinserts : ∀ kind, order.inserts kind = false) :
    ∃ db'', order.Effect now' db' r db'' ∧ db''.unstamped = db'.unstamped := by
  cases h with
  | reading hreading hsuccess => cases (puts_of_isReading hreading).symm.trans hputs
  | updateComposer hvalid hhas =>
    refine ⟨_, .updateComposer hvalid (Table.has_put.trans hhas), ?_⟩
    rw [Table.put_put rfl]
  | updatePiece hop hcomposer hvalid hhas =>
    refine ⟨_, .updatePiece hop (hcomposer.again (hinserts .composer) rfl rfl) hvalid
      (Table.has_put.trans hhas), ?_⟩
    rw [Table.put_put rfl]
  | updateVenue hop hvalid hhas =>
    refine ⟨_, .updateVenue hop hvalid (Table.has_put.trans hhas), ?_⟩
    rw [Table.put_put rfl]
  | updateProgramme hvalid hhas hfree =>
    refine ⟨_, .updateProgramme hvalid (Table.has_put.trans hhas) hfree, ?_⟩
    rw [Table.put_put rfl]
  | @replacePieces id pieceIds shown hhas hfree hpieces hshown =>
    have hslots := Catalogue.replacedSlots_replacedSlots db id pieceIds
    refine ⟨_, .replacePieces hhas hfree hpieces ?_, ?_⟩
    · rw [hslots]
      exact hshown
    · rw [hslots]
  | @updateEvent id command row details vs made shown hrow hdraft hvenue htitle hrefers hmade hshown =>
    have hsame := EventRow.unstamped_edited row now now' details
    have hrow' : (db.events.put (row.edited now details)).find? id = some (row.edited now details) :=
      Table.find?_put_of_id hrow rfl
    have hvenue' : Desk.VenueResolved { db with
        venues := vs, events := db.events.put (row.edited now details) } command details vs :=
      hvenue.again (hinserts .venue) rfl
    have hmade' := (EventRow.event_eq_of_unstamped hsame).trans hmade
    refine ⟨_, .updateEvent hrow' hdraft hvenue' htitle hrefers hmade' ?_,
      Catalogue.unstamped_put { db with venues := vs } rfl hsame⟩
    have hevents := Listing.withProgramme_run_events made
      { db with venues := vs, events := db.events.put (row.edited now details) }
      ((db.events.put (row.edited now details)).put ((row.edited now details).edited now' details))
    rw [hshown] at hevents
    exact hevents
  | @updateNotes id notes row made hrow hmade =>
    have hsame := EventRow.unstamped_annotated row now now' notes
    have hmade' := (EventRow.event_eq_of_unstamped hsame).trans hmade
    exact ⟨_, .updateNotes (Table.find?_put_of_id hrow rfl) hmade', Catalogue.unstamped_put db rfl hsame⟩
  | @draft id row made hrow hmade =>
    have hsame := EventRow.unstamped_moved row now now' .draft
    have hmade' := (EventRow.event_eq_of_unstamped hsame).trans hmade
    exact ⟨_, .draft (Table.find?_put_of_id hrow rfl) hmade', Catalogue.unstamped_put db rfl hsame⟩
  | @archive id row made hrow hmade =>
    have hsame := EventRow.unstamped_moved row now now' .archived
    have hmade' := (EventRow.event_eq_of_unstamped hsame).trans hmade
    exact ⟨_, .archive (Table.find?_put_of_id hrow rfl) hmade', Catalogue.unstamped_put db rfl hsame⟩
  | @publish id row made hrow htitle hcomplete hpieced hmade =>
    have hsame := EventRow.unstamped_moved row now now' .published
    have hmade' := (EventRow.event_eq_of_unstamped hsame).trans hmade
    have hcomplete' : (row.moved now .published).Complete :=
      ⟨hcomplete.date, hcomplete.ticketLink, hcomplete.venue, hcomplete.programme⟩
    exact ⟨_, .publish (Table.find?_put_of_id hrow rfl) htitle hcomplete' hpieced hmade',
      Catalogue.unstamped_put db rfl hsame⟩
  | @updateBiography name content variant hvariant =>
    refine ⟨_, .updateBiography hvariant, ?_⟩
    have hput : (db.biographies.set (some content) variant).set (some content) variant =
        db.biographies.set (some content) variant := Biographies.put_put
    rw [hput]
  | _ => cases hputs

end Http

end Recital
