import Recital.Proofs.Catalogue.Chronology
import Recital.Proofs.Session.Run

/-!
# What the two listings of events show

* `Catalogue.Lists` : the two listings choose the same events, and every choice is a part of one list.
* `listings_agree` : so they do after every run.
-/

set_option autoImplicit false

namespace Recital

/-- What the listings around a moment show, by the status and the timeframe that are asked for: one of events,
latest first, and one of events with their times, by id. -/
structure Catalogue.Lists (db : Catalogue) (now moment : Instant)
    (listed : Option Status → Option Timeframe → List Event)
    (timed : Option Status → Option Timeframe → List Event.WithTimes) : Prop where
  listEvents : ∀ status timeframe,
    (Listing.listEvents now status timeframe moment).run db = (.ok (listed status timeframe), db)
  listEventsWithTimes : ∀ status timeframe,
    (Listing.listEventsWithTimes now status timeframe moment).run db = (.ok (timed status timeframe), db)
  /-- Both show the same events, and no event twice. -/
  same : ∀ status timeframe,
    (listed status timeframe).Perm ((timed status timeframe).map Event.WithTimes.event)
  once : ∀ status timeframe, ((listed status timeframe).map Event.id).Nodup
  /-- Without filters every event is shown, and nothing else. -/
  all : ∀ row ∈ db.events.rows, ∃ e ∈ listed none none, row.event = .ok e
  stored : ∀ e ∈ listed none none, ∃ row ∈ db.events.rows, row.event = .ok e
  /-- Two filters leave what each of them leaves, in the order of the whole. -/
  both : ∀ status timeframe e,
    e ∈ listed status timeframe ↔ e ∈ listed status none ∧ e ∈ listed none timeframe
  part : ∀ status timeframe, (listed status timeframe).Sublist (listed none none)
  timedPart : ∀ status timeframe, (timed status timeframe).Sublist (timed none none)
  ofStatus : ∀ status e, e ∈ listed (some status) none ↔ e ∈ listed none none ∧ e.status = status
  /-- Nothing is past and upcoming. -/
  apart : ∀ status status' e, e ∈ listed status (some .past) → e ∉ listed status' (some .upcoming)
  order : ∀ status timeframe, (listed status timeframe).Pairwise Event.Precedes
  timedOrder : ∀ status timeframe,
    (timed status timeframe).Pairwise fun a b => a.event.id < b.event.id

theorem Catalogue.Sound.lists {db : Catalogue} (h : db.Sound) (now moment : Instant) :
    ∃ listed timed, db.Lists now moment listed timed := by
  have hread : db.Readable := fun row hrow => (h.events row hrow).readable
  have hmem : ∀ {status timeframe e}, e ∈ db.chronicle.filter (Event.passes status timeframe moment) ↔
      e ∈ db.chronicle ∧ e.passes status timeframe moment = true := List.mem_filter
  have hrun : ∀ status timeframe, ∃ timed,
      (Listing.listEventsWithTimes now status timeframe moment).run db = (.ok timed, db) ∧
      timed.map Event.WithTimes.event = db.shownEvents.filter (Event.passes status timeframe moment) :=
    fun _ _ => Listing.listEventsWithTimes_run hread
  choose timed htimed hevents using hrun
  refine ⟨fun status timeframe => db.chronicle.filter (Event.passes status timeframe moment), timed, {
    listEvents := fun _ _ => Listing.listEvents_run hread h.integrity
    listEventsWithTimes := htimed
    same := fun status timeframe => ?_
    once := fun _ _ => (List.filter_sublist.map Event.id).nodup h.integrity.chronicle_nodup
    all := fun row hrow => ?_
    stored := fun e he => ?_
    both := fun status timeframe e => ?_
    part := fun _ _ => List.monotone_filter_right _ fun _ _ => rfl
    timedPart := fun _ _ => Listing.listEventsWithTimes_sublist (htimed _ _) (htimed _ _)
    ofStatus := fun status e => ?_
    apart := fun status status' e hpast hupcoming => ?_
    order := fun _ _ => h.integrity.chronicle_pairwise.filter _
    timedOrder := fun status timeframe => ?_ }⟩
  · rw [hevents]
    exact (List.mergeSort_perm _ _).filter _
  · obtain ⟨e, he⟩ := (hread row hrow).event
    exact ⟨e, hmem.2 ⟨(Catalogue.mem_chronicle hread).2 ⟨row, hrow, he⟩, rfl⟩, he⟩
  · exact (Catalogue.mem_chronicle hread).1 (hmem.1 he).1
  · rw [hmem, hmem, hmem, Event.passes_eq_and status timeframe, Bool.and_eq_true]
    exact and_and_left
  · rw [hmem, hmem]
    simp [Event.passes]
  · exact absurd (hmem.1 hupcoming).2 (by simp [Event.not_passes_upcoming (hmem.1 hpast).2])
  · have hids : ((timed status timeframe).map Event.WithTimes.event).Pairwise fun a b => a.id < b.id := by
      rw [hevents]
      exact h.integrity.ascending_shownEvents.filter _
    rwa [List.pairwise_map] at hids

/-- **The two listings agree, and their filters compose**, whatever has reached the service, for every moment
around which and every time at which they are read. -/
theorem Session.listings_agree (visits : List (Instant × Visit)) (now moment : Instant) :
    ∃ listed timed, (after visits).catalogue.Lists now moment listed timed :=
  (serving_after visits).sound.lists now moment

end Recital
