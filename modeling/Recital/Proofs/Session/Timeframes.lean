import Recital.Proofs.Catalogue.Chronology
import Recital.Proofs.Instant.DateKey
import Recital.Proofs.Session.Run

/-!
# What the timeframes and the order of events have to do with the calendar

* `Instant.Read` : the instants that the database reads as dates; `read_of_ofInstant?` : it reads no other one.
* `Catalogue.Frames` : what is past, what is upcoming, and in which order events are listed.
* `timeframes_follow_dates` : so they are listed after every run.
* `leap_second_in_no_timeframe` : an event at a leap second is neither past nor upcoming.
-/

set_option autoImplicit false

namespace Recital

open JulianDay

/-! ## Dates -/

/-- An instant that the database may read as a date: no leap second, and in a year from the first of the Julian
period to the year 9999. -/
structure Instant.Read (i : Instant) : Prop where
  second : i.second < 60
  first : -4713 ≤ i.year
  last : i.year ≤ 9999

theorem Instant.read_of_ofInstant? {i : Instant} {key : Int} (h : ofInstant? i = some key) : i.Read := by
  obtain ⟨-, -, -, -, hsecond, -⟩ := Civil.bounds_of_isValid i.valid
  refine ⟨?_, ?_, ?_⟩
  · refine Nat.lt_of_le_of_ne hsecond fun hleap => ?_
    rw [ofInstant?_of_leap hleap] at h
    cases h
  · refine Int.not_lt.1 fun hyear => ?_
    rw [ofInstant?_of_year (Or.inl hyear)] at h
    cases h
  · refine Int.not_lt.1 fun hyear => ?_
    rw [ofInstant?_of_year (Or.inr hyear)] at h
    cases h

namespace Event

variable {a b e : Event} {d : Instant} {key : Int}

theorem dateKey_of_date (h : e.date = some d) : e.dateKey = ofInstant? d := by
  rw [dateKey, h, Option.bind_some]

/-- Only a date that is read has a key. -/
theorem read_of_dateKey (h : e.dateKey = some key) :
    ∃ d, e.date = some d ∧ ofInstant? d = some key ∧ d.Read := by
  obtain ⟨d, hd, hkey⟩ := Option.bind_eq_some_iff.1 h
  exact ⟨d, hd, hkey, Instant.read_of_ofInstant? hkey⟩

theorem dateKey_of_plain (h : e.date = some d) (hd : d.Plain) :
    ∃ key, e.dateKey = some key ∧ ofInstant? d = some key := by
  obtain ⟨key, hkey, -, -⟩ := hd.near
  exact ⟨key, (dateKey_of_date h).trans hkey, hkey⟩

/-- An event is listed before another one only if its date is at most a millisecond earlier. -/
theorem Precedes.nanos_le {c : Instant} (h : a.Precedes b) (ha : a.date = some c) (hb : b.date = some d)
    (hc : c.Plain) (hd : d.Plain) : d.nanos ≤ c.nanos + 1000000 := by
  obtain ⟨y, hy, hread⟩ := dateKey_of_plain hb hd
  obtain ⟨x, hx, hle⟩ := h.later y hy
  rw [dateKey_of_date ha] at hx
  refine Int.not_lt.1 fun hlt => ?_
  exact absurd (hc.lt_of_nanos hd hx hread hlt) (Int.not_lt.2 hle)

/-- Nor before one with a plain date, if it has no date that is read. -/
theorem Precedes.read (h : a.Precedes b) (hb : ∃ d, b.date = some d ∧ d.Plain) :
    ∃ c, a.date = some c ∧ c.Read := by
  obtain ⟨d, hb, hd⟩ := hb
  obtain ⟨y, hy, -⟩ := dateKey_of_plain hb hd
  obtain ⟨x, hx, -⟩ := h.later y hy
  obtain ⟨c, hc, -, hread⟩ := read_of_dateKey hx
  exact ⟨c, hc, hread⟩

theorem Precedes.id_lt_of_date (h : a.Precedes b) (hsame : a.date = b.date) : a.id < b.id := by
  refine h.ties ?_
  rw [dateKey, hsame]
  rfl

theorem dateKey_of_unread (h : ¬ ∃ d, e.date = some d ∧ d.Read) : e.dateKey = none := by
  cases hkey : e.dateKey with
  | none => rfl
  | some key =>
    obtain ⟨d, hdate, -, hd⟩ := read_of_dateKey hkey
    exact absurd ⟨d, hdate, hd⟩ h

theorem Precedes.id_lt_of_unread (h : a.Precedes b) (ha : ¬ ∃ c, a.date = some c ∧ c.Read)
    (hb : ¬ ∃ d, b.date = some d ∧ d.Read) : a.id < b.id :=
  h.ties ((dateKey_of_unread ha).trans (dateKey_of_unread hb).symm)

end Event

/-! ## Timeframes -/

/-- What the listing around a moment shows of the events of one status, or of all. -/
structure Catalogue.Frames (db : Catalogue) (now moment : Instant) (status : Option Status)
    (listed past upcoming : List Event) : Prop where
  listed_run : (Listing.listEvents now status none moment).run db = (.ok listed, db)
  past_run : (Listing.listEvents now status (some .past) moment).run db = (.ok past, db)
  upcoming_run : (Listing.listEvents now status (some .upcoming) moment).run db = (.ok upcoming, db)
  stored : ∀ e, e ∈ listed ↔ (∃ row ∈ db.events.rows, row.event = .ok e) ∧ ∀ s ∈ status, e.status = s
  /-- Only an event with a date that is read is in a timeframe, around a moment that is read, and in one only. -/
  dated : ∀ e, e ∈ past ∨ e ∈ upcoming → e ∈ listed ∧ moment.Read ∧ ∃ d, e.date = some d ∧ d.Read
  apart : ∀ e ∈ past, e ∉ upcoming
  /-- If both are read where they are, the event is in one, and in that of the past only if it is earlier. -/
  divided : moment.Plain → ∀ e ∈ listed, ∀ d, e.date = some d → d.Plain → e ∈ past ∨ e ∈ upcoming
  earlier : moment.Plain → ∀ e ∈ past, ∀ d, e.date = some d → d.Plain → d.isBefore moment = true
  /-- An event that is earlier by more than a millisecond is in the past. -/
  past_of_earlier : moment.Plain → ∀ e ∈ listed, ∀ d, e.date = some d → d.Plain →
    d.nanos + 1000000 < moment.nanos → e ∈ past
  /-- No event is listed before one that is later by more than a millisecond. -/
  order : listed.Pairwise fun a b => ∀ c d, a.date = some c → b.date = some d → c.Plain → d.Plain →
    d.nanos ≤ c.nanos + 1000000
  ties : listed.Pairwise fun a b => a.date = b.date → a.id < b.id
  /-- The events whose dates are not read are the last ones, by id. -/
  unreadLast : listed.Pairwise fun a b => (∃ d, b.date = some d ∧ d.Plain) → ∃ c, a.date = some c ∧ c.Read
  unreadById : listed.Pairwise fun a b => (¬ ∃ c, a.date = some c ∧ c.Read) →
    (¬ ∃ d, b.date = some d ∧ d.Read) → a.id < b.id

/-- A sound catalogue is listed so. -/
theorem Catalogue.Sound.frames {db : Catalogue} (h : db.Sound) (now moment : Instant)
    (status : Option Status) : ∃ listed past upcoming,
      db.Frames now moment status listed past upcoming := by
  have hread : db.Readable := fun row hrow => (h.events row hrow).readable
  have hmem : ∀ {timeframe e}, e ∈ db.chronicle.filter (Event.passes status (some timeframe) moment) ↔
      e ∈ db.chronicle.filter (Event.passes status none moment) ∧
        Listing.inTimeframe e.dateKey (ofInstant? moment) timeframe = true := by
    intro timeframe e
    simp only [List.mem_filter, Event.passes, Option.all_some, Option.all_none, Bool.and_true,
      Bool.and_eq_true, and_assoc]
  have hpast : ∀ {e}, e ∈ db.chronicle.filter (Event.passes status (some .past) moment) ↔
      e ∈ db.chronicle.filter (Event.passes status none moment) ∧
        ∃ x n, e.dateKey = some x ∧ ofInstant? moment = some n ∧ x < n := fun {e} =>
    hmem.trans (and_congr_right' Listing.inTimeframe_past_iff)
  have hupcoming : ∀ {e}, e ∈ db.chronicle.filter (Event.passes status (some .upcoming) moment) ↔
      e ∈ db.chronicle.filter (Event.passes status none moment) ∧
        ∃ x n, e.dateKey = some x ∧ ofInstant? moment = some n ∧ n ≤ x := fun {e} =>
    hmem.trans (and_congr_right' Listing.inTimeframe_upcoming_iff)
  have horder := h.integrity.chronicle_pairwise.filter (Event.passes status none moment)
  refine ⟨_, _, _, {
    listed_run := Listing.listEvents_run hread h.integrity
    past_run := Listing.listEvents_run hread h.integrity
    upcoming_run := Listing.listEvents_run hread h.integrity
    stored := fun e => ?_
    dated := fun e he => ?_
    apart := fun e he hboth => ?_
    divided := fun hmoment e he d hdate hd => ?_
    earlier := fun hmoment e he d hdate hd => ?_
    past_of_earlier := fun hmoment e he d hdate hd hlt => ?_
    order := horder.imp fun hab _ _ ha hb hc hd => Event.Precedes.nanos_le hab ha hb hc hd
    ties := horder.imp Event.Precedes.id_lt_of_date
    unreadLast := horder.imp Event.Precedes.read
    unreadById := horder.imp Event.Precedes.id_lt_of_unread }⟩
  · rw [List.mem_filter, Catalogue.mem_chronicle hread]
    simp [Event.passes, Option.all_eq_true]
  · have hframe : e ∈ db.chronicle.filter (Event.passes status none moment) ∧
        ∃ x n, e.dateKey = some x ∧ ofInstant? moment = some n := by
      rcases he with he | he
      · obtain ⟨hlisted, x, n, hx, hn, -⟩ := hpast.1 he
        exact ⟨hlisted, x, n, hx, hn⟩
      · obtain ⟨hlisted, x, n, hx, hn, -⟩ := hupcoming.1 he
        exact ⟨hlisted, x, n, hx, hn⟩
    obtain ⟨hlisted, x, n, hx, hn⟩ := hframe
    obtain ⟨d, hdate, -, hd⟩ := Event.read_of_dateKey hx
    exact ⟨hlisted, Instant.read_of_ofInstant? hn, d, hdate, hd⟩
  · have hno := Listing.not_inTimeframe_upcoming (hmem.1 he).2
    cases hno.symm.trans (hmem.1 hboth).2
  · obtain ⟨x, hx, -⟩ := Event.dateKey_of_plain hdate hd
    obtain ⟨n, hn, -, -⟩ := hmoment.near
    rcases Int.lt_or_le x n with hlt | hle
    · exact Or.inl (hpast.2 ⟨he, x, n, hx, hn, hlt⟩)
    · exact Or.inr (hupcoming.2 ⟨he, x, n, hx, hn, hle⟩)
  · obtain ⟨-, x, n, hx, hn, hlt⟩ := hpast.1 he
    rw [Event.dateKey_of_date hdate] at hx
    exact hd.isBefore_of_lt hmoment hx hn hlt
  · obtain ⟨x, hx, hread⟩ := Event.dateKey_of_plain hdate hd
    obtain ⟨n, hn, -, -⟩ := hmoment.near
    exact hpast.2 ⟨he, x, n, hx, hn, hd.lt_of_nanos hmoment hread hn hlt⟩

namespace Session

/-- **Events are past, upcoming and in order by their dates, as far as the database reads them**, whatever has
reached the service.  It reads them to the nearest millisecond, and a leap second or a year above 9999 not at all. -/
theorem timeframes_follow_dates (visits : List (Instant × Visit)) (now moment : Instant)
    (status : Option Status) : ∃ listed past upcoming,
      (after visits).catalogue.Frames now moment status listed past upcoming :=
  (serving_after visits).sound.frames now moment status

/-- A request that sets an event at a leap second. -/
def lastOfTheYear : List (Instant × Visit) :=
  [(.spring, .request (.ofJson "POST" "/events"
    "\x7b\"event\":\x7b\"title\":\"E\",\"date\":\"2016-12-31T23:59:60Z\"\x7d\x7d"))]

/-- The leap second. -/
def leapSecond : Instant :=
  ⟨⟨2016, 12, 31, 23, 59, 60, 0⟩, by decide⟩

/-- An event that is dated, and before the moment, is in no timeframe. -/
theorem leap_second_in_no_timeframe :
    ((Listing.listEvents .spring none none .spring).run (after lastOfTheYear).catalogue).1 =
        .ok [{ id := 1, title := "E", date := some leapSecond }] ∧
      leapSecond.isBefore .spring = true ∧
      ((Listing.listEvents .spring none (some .past) .spring).run (after lastOfTheYear).catalogue).1 =
        .ok [] ∧
      ((Listing.listEvents .spring none (some .upcoming) .spring).run (after lastOfTheYear).catalogue).1 =
        .ok [] := by
  decide +kernel

end Session

end Recital
