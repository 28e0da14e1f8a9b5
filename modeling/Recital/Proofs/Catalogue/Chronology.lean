import Mathlib.Data.List.Nodup
import Recital.Proofs.Catalogue.Timeless

/-!
# Events in order

Both listings choose from the same events, which have the same dates at whatever time they are read.

* `EventRow.shown` : the event that a readable row shows.
* `Event.dateKey`, `Event.passes`, `Event.latestFirst` : what the database reads of the date of an event, and
  how it chooses and orders by it.
* `Event.Precedes` : the order in which events are listed.
* `Catalogue.chronicle` : all events in this order.
* `listEvents_run`, `listEventsWithTimes_run` : a listing shows those events that pass, in its order.
-/

set_option autoImplicit false

namespace Recital

/-! ## Events of rows -/

/-- The event that a row shows. -/
def EventRow.shown (row : EventRow) : Event :=
  { id := row.id, title := row.title, date := row.date.bind Instant.ofStored?,
    ticketLink := row.ticketLink, venueId := row.venueId, programmeId := row.programmeId,
    status := row.status, notes := row.notes }

namespace EventRow.Readable

variable {row : EventRow}

theorem bind_ofStored? (h : row.Readable) :
    row.date = (row.date.bind Instant.ofStored?).map Instant.stored := by
  obtain ⟨d, hd⟩ := h.date
  rw [hd]
  cases d with
  | none => rfl
  | some i => simp only [Option.map_some, Option.bind_some, Instant.ofStored?_stored]

theorem event_eq_shown (h : row.Readable) : row.event = .ok row.shown :=
  event_eq row h.bind_ofStored?

end EventRow.Readable

/-! ## Timeframes -/

namespace Listing

variable {date moment : Option Int}

theorem inTimeframe_past_iff : inTimeframe date moment .past = true ↔
    ∃ d n, date = some d ∧ moment = some n ∧ d < n := by
  cases date <;> cases moment <;> simp [inTimeframe]

theorem inTimeframe_upcoming_iff : inTimeframe date moment .upcoming = true ↔
    ∃ d n, date = some d ∧ moment = some n ∧ n ≤ d := by
  cases date <;> cases moment <;> simp [inTimeframe]

/-- No date is both past and upcoming. -/
theorem not_inTimeframe_upcoming (h : inTimeframe date moment .past = true) :
    inTimeframe date moment .upcoming = false := by
  obtain ⟨d, n, rfl, rfl, hlt⟩ := inTimeframe_past_iff.1 h
  exact decide_eq_false (Int.not_le_of_gt hlt)

end Listing

/-! ## Dates as the database reads them -/

namespace Event

/-- The distance of the date of an event from the start of the Julian period. -/
def dateKey (e : Event) : Option Int :=
  e.date.bind JulianDay.ofInstant?

/-- Whether an event passes the filters that are given, around a moment. -/
def passes (status : Option Status) (timeframe : Option Timeframe) (moment : Instant) (e : Event) : Bool :=
  status.all (fun s => e.status = s) &&
    timeframe.all (Listing.inTimeframe e.dateKey (JulianDay.ofInstant? moment))

/-- Later dates first, no date last, then by id. -/
def latestFirst (a b : Event) : Bool :=
  match a.dateKey, b.dateKey with
  | some x, some y => y < x || (x = y && a.id ≤ b.id)
  | some _, none => true
  | none, some _ => false
  | none, none => a.id ≤ b.id

/-- An event is listed before another one: its date is not the earlier one, where the other has a date that is
read, and where both have the same, its id is the lower one. -/
structure Precedes (a b : Event) : Prop where
  later : ∀ y, b.dateKey = some y → ∃ x, a.dateKey = some x ∧ y ≤ x
  ties : a.dateKey = b.dateKey → a.id < b.id

variable {a b : Event}

theorem latestFirst_trans (a b c : Event) (hab : a.latestFirst b = true) (hbc : b.latestFirst c = true) :
    a.latestFirst c = true := by
  unfold latestFirst at *
  generalize a.dateKey = x at *
  generalize b.dateKey = y at *
  generalize c.dateKey = z at *
  cases x <;> cases y <;> cases z <;> simp at * <;> omega

theorem latestFirst_total (a b : Event) : (a.latestFirst b || b.latestFirst a) = true := by
  unfold latestFirst
  cases a.dateKey <;> cases b.dateKey <;> simp <;> omega

/-- Of two events with different ids, the one that is listed first precedes the other one. -/
theorem precedes_of_latestFirst (h : a.latestFirst b = true) (hne : a.id ≠ b.id) : a.Precedes b := by
  unfold latestFirst at h
  cases ha : a.dateKey with
  | none => cases hb : b.dateKey with
    | none =>
      rw [ha, hb] at h
      refine ⟨fun y hy => (nomatch hb.symm.trans hy), fun _ => ?_⟩
      exact Int.lt_iff_le_and_ne.2 ⟨of_decide_eq_true h, hne⟩
    | some y =>
      rw [ha, hb] at h
      cases h
  | some x => cases hb : b.dateKey with
    | none =>
      refine ⟨fun y hy => (nomatch hb.symm.trans hy), fun hsame => ?_⟩
      cases ha.symm.trans (hsame.trans hb)
    | some y =>
      rw [ha, hb] at h
      simp only [Bool.or_eq_true, Bool.and_eq_true, decide_eq_true_eq] at h
      refine ⟨fun z hz => ⟨x, ha, ?_⟩, fun hsame => ?_⟩
      · obtain rfl := Option.some.inj (hb.symm.trans hz)
        omega
      · obtain rfl := Option.some.inj (ha.symm.trans (hsame.trans hb))
        omega

/-- No two events precede each other. -/
theorem Precedes.asymm (hab : a.Precedes b) (hba : b.Precedes a) : False := by
  have hsame : a.dateKey = b.dateKey := by
    cases ha : a.dateKey with
    | none => cases hb : b.dateKey with
      | none => rfl
      | some y =>
        obtain ⟨x, hx, -⟩ := hab.later y hb
        cases ha.symm.trans hx
    | some x =>
      obtain ⟨y, hb, hxy⟩ := hba.later x ha
      obtain ⟨x', hx', hyx⟩ := hab.later y hb
      obtain rfl := Option.some.inj (ha.symm.trans hx')
      rw [hb, Int.le_antisymm hxy hyx]
  exact absurd (hab.ties hsame) (Int.lt_asymm (hba.ties hsame.symm))

/-- An event passes two filters if it passes each of them. -/
theorem passes_eq_and (status : Option Status) (timeframe : Option Timeframe) (moment : Instant) (e : Event) :
    e.passes status timeframe moment =
      (e.passes status none moment && e.passes none timeframe moment) := by
  simp only [passes, Option.all_none, Bool.and_true, Bool.true_and]

/-- No event is both past and upcoming. -/
theorem not_passes_upcoming {status status' : Option Status} {moment : Instant} {e : Event}
    (h : e.passes status (some .past) moment = true) : e.passes status' (some .upcoming) moment = false := by
  rw [passes, Bool.and_eq_true] at h
  rw [passes, Option.all_some, Listing.not_inTimeframe_upcoming h.2, Bool.and_false]

end Event

namespace Listing

variable {now moment : Instant} {status : Option Status} {timeframe : Option Timeframe}

theorem dateKey_eq {row : EventRow} (h : row.Readable) : dateKey now row = row.shown.dateKey := by
  have hdate : row.shown.dateKey = (row.date.bind Instant.ofStored?).bind JulianDay.ofInstant? := rfl
  rw [dateKey, hdate]
  obtain ⟨d, hd⟩ := h.date
  rw [hd]
  cases d with
  | none => rfl
  | some i => simp only [Option.map_some, Option.bind_some, Instant.ofStored?_stored,
      JulianDay.julianMillis?_stored]

theorem passes_eq {row : EventRow} (h : row.Readable) :
    passes now status timeframe moment row = row.shown.passes status timeframe moment := by
  rw [passes, dateKey_eq h]
  rfl

theorem latestFirst_eq {a b : EventRow} (ha : a.Readable) (hb : b.Readable) :
    latestFirst now a b = a.shown.latestFirst b.shown := by
  rw [latestFirst, dateKey_eq ha, dateKey_eq hb]
  rfl

end Listing

/-! ## What is listed -/

/-- What is chosen of a list may be sorted before or after, if the order tells its members apart. -/
theorem mergeSort_filter {α : Type} {le : α → α → Bool} {l : List α}
    (htrans : ∀ a b c, le a b = true → le b c = true → le a c = true)
    (htotal : ∀ a b, (le a b || le b a) = true)
    (hanti : ∀ a ∈ l, ∀ b ∈ l, le a b = true → le b a = true → a = b) (p : α → Bool) :
    (l.filter p).mergeSort le = (l.mergeSort le).filter p := by
  have hperm : ((l.filter p).mergeSort le).Perm ((l.mergeSort le).filter p) :=
    (List.mergeSort_perm _ _).trans ((List.mergeSort_perm l le).symm.filter p)
  refine hperm.eq_of_pairwise ?_ (List.pairwise_mergeSort htrans htotal _)
    ((List.pairwise_mergeSort htrans htotal l).filter p)
  intro a b ha hb
  refine hanti a ?_ b ?_
  · exact (List.mem_filter.1 (List.mem_mergeSort.1 ha)).1
  · exact List.mem_mergeSort.1 (List.mem_filter.1 hb).1

namespace Catalogue

variable {db : Catalogue}

/-- The events of a catalogue, by id. -/
def shownEvents (db : Catalogue) : List Event :=
  db.events.rows.map EventRow.shown

/-- The events of a catalogue, latest first. -/
def chronicle (db : Catalogue) : List Event :=
  db.shownEvents.mergeSort Event.latestFirst

/-- They are the events that the rows show. -/
theorem mem_chronicle (h : db.Readable) {e : Event} :
    e ∈ db.chronicle ↔ ∃ row ∈ db.events.rows, row.event = .ok e := by
  rw [chronicle, List.mem_mergeSort, shownEvents, List.mem_map]
  refine exists_congr fun row => and_congr_right fun hrow => ?_
  rw [(h row hrow).event_eq_shown, Except.ok.injEq]

theorem Integrity.ascending_shownEvents (h : db.Integrity) :
    db.shownEvents.Pairwise fun a b => a.id < b.id :=
  List.pairwise_map.2 h.events.ascending

theorem Integrity.nodup_shownEvents (h : db.Integrity) : (db.shownEvents.map Event.id).Nodup :=
  List.nodup_iff_pairwise_ne.2 (List.pairwise_map.2 (h.ascending_shownEvents.imp fun hlt => Int.ne_of_lt hlt))

/-- Events are told apart by their ids. -/
theorem Integrity.eq_of_id (h : db.Integrity) {a b : Event} (ha : a ∈ db.shownEvents)
    (hb : b ∈ db.shownEvents) (hid : a.id = b.id) : a = b :=
  List.inj_on_of_nodup_map h.nodup_shownEvents ha hb hid

theorem Integrity.chronicle_nodup (h : db.Integrity) : (db.chronicle.map Event.id).Nodup :=
  ((List.mergeSort_perm _ _).map Event.id).nodup_iff.2 h.nodup_shownEvents

/-- **The events are in order.** -/
theorem Integrity.chronicle_pairwise (h : db.Integrity) : db.chronicle.Pairwise Event.Precedes := by
  have hsorted : db.chronicle.Pairwise fun a b => a.latestFirst b = true :=
    List.pairwise_mergeSort Event.latestFirst_trans Event.latestFirst_total _
  have happart : db.chronicle.Pairwise fun a b => a.id ≠ b.id :=
    List.pairwise_map.1 (List.nodup_iff_pairwise_ne.1 h.chronicle_nodup)
  exact (hsorted.and happart).imp fun hboth => Event.precedes_of_latestFirst hboth.1 hboth.2

end Catalogue

namespace Listing

open Step

variable {now moment : Instant} {status : Option Status} {timeframe : Option Timeframe} {db : Catalogue}

theorem each_eq_map {α β : Type} {f : α → Except Fault β} {g : α → β} {l : List α}
    (h : ∀ a ∈ l, f a = .ok (g a)) : each f l = .ok (l.map g) := by
  induction l with
  | nil => rfl
  | cons a l ih =>
    rw [each, h a (List.mem_cons_self ..), ih fun b hb => h b (List.mem_cons_of_mem _ hb)]
    rfl

theorem each_cons_eq_ok {α β : Type} {f : α → Except Fault β} {a : α} {l : List α} {bs : List β}
    (h : each f (a :: l) = .ok bs) : ∃ b rest, f a = .ok b ∧ each f l = .ok rest ∧ bs = b :: rest := by
  rw [each] at h
  cases hb : f a with
  | error e =>
    rw [hb] at h
    cases h
  | ok b => cases hrest : each f l with
    | error e =>
      rw [hb, hrest] at h
      cases h
    | ok rest =>
      rw [hb, hrest] at h
      exact ⟨b, rest, rfl, rfl, (Except.ok.inj h).symm⟩

/-- A part of a list gives a part of its values. -/
theorem each_sublist {α β : Type} {f : α → Except Fault β} {l l' : List α} (h : l'.Sublist l)
    {bs bs' : List β} (hbs : each f l = .ok bs) (hbs' : each f l' = .ok bs') : bs'.Sublist bs := by
  induction h generalizing bs bs' with
  | slnil =>
    obtain rfl := Except.ok.inj (hbs'.symm.trans hbs)
    exact .refl _
  | cons a _ ih =>
    obtain ⟨b, rest, -, hrest, rfl⟩ := each_cons_eq_ok hbs
    exact (ih hrest hbs').cons b
  | cons_cons a _ ih =>
    obtain ⟨b, rest, hb, hrest, rfl⟩ := each_cons_eq_ok hbs
    obtain ⟨b', rest', hb', hrest', rfl⟩ := each_cons_eq_ok hbs'
    obtain rfl := Except.ok.inj (hb'.symm.trans hb)
    exact (ih hrest hrest').cons_cons b'

theorem map_shown_filter_passes (h : db.Readable) :
    (db.events.rows.filter (passes now status timeframe moment)).map EventRow.shown =
      db.shownEvents.filter (Event.passes status timeframe moment) := by
  rw [Catalogue.shownEvents, List.filter_map]
  exact congrArg _ (List.filter_congr fun row hrow => passes_eq (h row hrow))

/-- **A listing shows the events that pass, in order.** -/
theorem listEvents_run (hread : db.Readable) (h : db.Integrity) :
    (listEvents now status timeframe moment).run db =
      (.ok (db.chronicle.filter (Event.passes status timeframe moment)), db) := by
  have hmem : ∀ row ∈ db.events.rows.filter (passes now status timeframe moment), row.Readable :=
    fun row hrow => hread row (List.mem_filter.1 hrow).1
  have heach : ∀ row ∈ (db.events.rows.filter (passes now status timeframe moment)).mergeSort
      (latestFirst now), row.event = .ok row.shown :=
    fun row hrow => (hmem row (List.mem_mergeSort.1 hrow)).event_eq_shown
  have hsame : ∀ a ∈ db.events.rows.filter (passes now status timeframe moment),
      ∀ b ∈ db.events.rows.filter (passes now status timeframe moment),
      latestFirst now a b = a.shown.latestFirst b.shown :=
    fun a ha b hb => latestFirst_eq (hmem a ha) (hmem b hb)
  rw [listEvents, query_run, each_eq_map heach, List.map_mergeSort hsame, map_shown_filter_passes hread,
    Catalogue.chronicle, mergeSort_filter Event.latestFirst_trans Event.latestFirst_total]
  intro a ha b hb hab hba
  by_contra hne
  have hids : a.id ≠ b.id := fun hid => hne (h.eq_of_id ha hb hid)
  exact (Event.precedes_of_latestFirst hab hids).asymm (Event.precedes_of_latestFirst hba (Ne.symm hids))

/-- The other listing shows the same events by id, with their times. -/
theorem listEventsWithTimes_run (hread : db.Readable) :
    ∃ timed, (listEventsWithTimes now status timeframe moment).run db = (.ok timed, db) ∧
      timed.map Event.WithTimes.event = db.shownEvents.filter (Event.passes status timeframe moment) := by
  have hmem : ∀ row ∈ db.events.rows.filter (passes now status timeframe moment), row.Readable :=
    fun row hrow => hread row (List.mem_filter.1 hrow).1
  obtain ⟨timed, htimed, hevents⟩ := each_eventWithTimes hmem
  refine ⟨timed, by rw [listEventsWithTimes, query_run, htimed], ?_⟩
  rw [each_eq_map fun row hrow => (hmem row hrow).event_eq_shown] at hevents
  rw [← map_shown_filter_passes hread]
  exact (Except.ok.inj hevents).symm

/-- With filters it shows a part of what it shows without. -/
theorem listEventsWithTimes_sublist {timed all : List Event.WithTimes}
    (h : (listEventsWithTimes now status timeframe moment).run db = (.ok timed, db))
    (hall : (listEventsWithTimes now none none moment).run db = (.ok all, db)) : timed.Sublist all := by
  rw [listEventsWithTimes, query_run] at h hall
  refine each_sublist ?_ (Prod.mk.inj hall).1 (Prod.mk.inj h).1
  exact List.monotone_filter_right _ fun _ _ => rfl

end Listing

end Recital
