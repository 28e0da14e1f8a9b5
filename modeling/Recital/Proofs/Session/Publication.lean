import Recital.Proofs.Session.Run

/-!
# Published events and their programmes

* `published_complete` : after every run, nothing is missing of a published event, and its venue and its
  programme, which has slots, exist.
* `performed_frozen` : as long as a programme is performed by some published event, it exists, under one
  title and with the same slots.
-/

set_option autoImplicit false

namespace Recital

instance (db : Catalogue) (id : Int) : Decidable (db.Performed id) :=
  inferInstanceAs (Decidable (∃ row ∈ db.events.rows, row.status = .published ∧
    row.programmeId = some id))

namespace Session

/-- **A published event has a title, a date and a ticket link, is at a venue that exists, and performs a
programme that exists and has slots**, whatever has reached the service. -/
theorem published_complete (visits : List (Instant × Visit)) (row : EventRow)
    (hrow : row ∈ (after visits).catalogue.events.rows) (hpublished : row.status = .published) :
    Text.isBlank row.title = false ∧
      (∃ date : Instant, row.date = some date.stored) ∧
      (∃ link, row.ticketLink = some link ∧ Text.isBlank link = false) ∧
      (∃ venue, row.venueId = some venue ∧
        (after visits).catalogue.has .venue venue = true) ∧
      ∃ programme, row.programmeId = some programme ∧
        (after visits).catalogue.has .programme programme = true ∧
        (after visits).catalogue.slotsOf programme ≠ [] := by
  have hsound := (serving_after visits).sound
  have hevent := hsound.events row hrow
  have hcomplete := hevent.complete hpublished
  obtain ⟨hvenue, hprogramme⟩ := hsound.integrity.eventRefers row hrow
  refine ⟨hevent.title, ?_, hcomplete.ticketLink, ?_, ?_⟩
  · obtain ⟨d, hd⟩ := hevent.readable.date
    have hsome := hcomplete.date
    rw [hd] at hsome ⊢
    cases d with
    | none => cases hsome
    | some date => exact ⟨date, rfl⟩
  · obtain ⟨venue, hv⟩ := hcomplete.venue
    exact ⟨venue, hv, Catalogue.refers_iff.1 hvenue venue hv⟩
  · obtain ⟨programme, hp⟩ := hcomplete.programme
    refine ⟨programme, hp, Catalogue.refers_iff.1 hprogramme programme hp, ?_⟩
    exact hevent.pieced hpublished programme hp

/-- Requests that publish an event. -/
def premiere : List (Instant × Visit) :=
  [.ofJson "POST" "/pieces"
      ("\x7b\"piece\":\x7b\"operation\":\"CREATE\",\"data\":\x7b\"title\":\"T\"\x7d\x7d," ++
        "\"composer\":\x7b\"operation\":\"CREATE\",\"data\":\x7b\"full_name\":\"A\"," ++
        "\"short_name\":\"B\"\x7d\x7d\x7d"),
    .ofJson "POST" "/programmes" "\x7b\"title\":\"P\"\x7d",
    .ofJson "PUT" "/programmes/1/pieces" "\x7b\"piece_ids\":[1]\x7d",
    .ofJson "POST" "/events"
      ("\x7b\"event\":\x7b\"title\":\"E\",\"date\":\"2026-05-01T19:30:00Z\"," ++
        "\"ticket_link\":\"l\",\"programme_id\":1\x7d,\"venue\":\x7b\"operation\":\"CREATE\"," ++
        "\"data\":\x7b\"name\":\"N\",\"full_address\":\"F\",\"short_address\":\"S\"\x7d\x7d\x7d"),
    .ofJson "PUT" "/events/1/publish" ""].map fun request => (.spring, .request request)

/-- The event that is published then. -/
def premiered : EventRow where
  id := 1
  title := "E"
  date := some "2026-05-01T19:30:00+00:00"
  ticketLink := some "l"
  venueId := some 1
  programmeId := some 1
  status := .published
  createdAt := "2026-04-01T12:00:00+00:00"
  updatedAt := "2026-04-01T12:00:00+00:00"

theorem premiered_mem : premiered ∈ (after premiere).catalogue.events.rows := by
  decide +kernel

theorem published_complete_premiered : premiered ∈ (after premiere).catalogue.events.rows ∧
    premiered.status = .published ∧ Text.isBlank premiered.title = false ∧
    ∃ programme, premiered.programmeId = some programme ∧
      (after premiere).catalogue.has .programme programme = true ∧
      (after premiere).catalogue.slotsOf programme ≠ [] := by
  obtain ⟨htitle, -, -, -, hprogramme⟩ := published_complete premiere premiered premiered_mem rfl
  exact ⟨premiered_mem, rfl, htitle, hprogramme⟩

/-! ## Programmes that are performed -/

/-- **A programme that is performed by some published event at every moment of a part of a run exists
there, under one title and with the slots that it had at first.** -/
theorem performed_frozen (visits segment : List (Instant × Visit)) (p : Int)
    (hperformed : ∀ part, part <+: segment → (after (visits ++ part)).catalogue.Performed p) :
    ∃ programme, ∀ part, part <+: segment →
      (after (visits ++ part)).catalogue.programmes.find? p = some programme ∧
      (after (visits ++ part)).catalogue.slotsOf p = (after visits).catalogue.slotsOf p := by
  have hfirst : (after visits).catalogue.Performed p := by
    have h := hperformed [] List.nil_prefix
    rwa [List.append_nil] at h
  have hhas := (serving_after visits).sound.integrity.has_of_performed hfirst
  obtain ⟨programme, hprogramme⟩ := Table.find?_of_has hhas
  refine ⟨programme, fun part hpart => ?_⟩
  obtain ⟨hrow, hslots⟩ := frozen_run visits part fun front hfront =>
    hperformed front (hfront.trans hpart)
  exact ⟨hrow.trans hprogramme, hslots⟩

/-- A visit that asks for another title of the programme that is performed. -/
def retitling : Instant × Visit :=
  (.spring, .request (.ofJson "PUT" "/programmes/1" "\x7b\"title\":\"Q\"\x7d"))

theorem performed_frozen_retitling :
    (∀ part, part <+: [retitling] → (after (premiere ++ part)).catalogue.Performed 1) ∧
      ∃ programme,
        (after (premiere ++ [retitling])).catalogue.programmes.find? 1 = some programme ∧
        (after (premiere ++ [retitling])).catalogue.slotsOf 1 =
          (after premiere).catalogue.slotsOf 1 := by
  have hperformed : ∀ part ∈ [[], [retitling]], (after (premiere ++ part)).catalogue.Performed 1 := by
    decide +kernel
  have hpart : ∀ part, part <+: [retitling] → (after (premiere ++ part)).catalogue.Performed 1 := by
    intro part hpart
    rcases List.prefix_cons_iff.1 hpart with rfl | ⟨rest, rfl, hrest⟩
    · exact hperformed [] (by simp)
    · rw [List.prefix_nil.1 hrest]
      exact hperformed [retitling] (by simp)
  obtain ⟨programme, h⟩ := performed_frozen premiere [retitling] 1 hpart
  exact ⟨hpart, programme, h [retitling] (List.prefix_refl _)⟩

end Session

end Recital
