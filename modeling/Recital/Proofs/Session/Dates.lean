import Recital.Proofs.Http.Dates
import Recital.Proofs.Session.Listings
import Recital.Proofs.Session.ReadBack
import Recital.Proofs.Session.Reopening

/-!
# Dates survive

* `Order.Effect.dated` : an event that is made or changed with a date is stored and shown with it.
* `Session.ShowsDate` : an event has a date, wherever it is shown.
* `dates_survive` : a text that names an instant is written back in one form, which names the same instant, from
  whatever path it is shown; and how the instant was written does not matter.
-/

set_option autoImplicit false

namespace Recital

open Json Showable

/-! ## Events with dates -/

/-- The event of a row has the date that the row stores. -/
theorem EventRow.date_of_event {row : EventRow} {e : Event} {i : Instant} (h : row.event = .ok e)
    (hdate : row.date = some i.stored) : e.date = some i := by
  obtain ⟨d, hd, rfl⟩ := event_eq_ok_iff.1 h
  rw [hdate] at hd
  exact (Except.ok.inj (hd.symm.trans (storedDate_map_stored (some i))))

theorem Desk.EventCommand.date_resolvedDetails (db : Catalogue) (command : Desk.EventCommand) :
    (command.resolvedDetails db).date = command.event.date := by
  unfold EventCommand.resolvedDetails
  cases command.venue <;> rfl

namespace Http

open Desk

/-- The member of a response that holds the event which has been made, or changed. -/
def eventMember : Option Int → String
  | none => "data"
  | some _ => "event"

variable {now : Instant} {db db' : Catalogue} {command : EventCommand} {id? : Option Int} {r : Response} {i : Instant}

theorem isReading_writing (command : EventCommand) (id? : Option Int) :
    (Order.event (.writing command id?)).isReading = false := by
  cases id? <;> rfl

/-- **An event that is made or changed with a date is stored and shown with it.** -/
theorem Order.Effect.dated (h : (Order.event (.writing command id?)).Effect now db r db') (hs : db.Sound)
    (hdate : command.event.date = some i) : ∃ id row made, db'.events.find? id = some row ∧
      row.date = some i.stored ∧ row.event = .ok made ∧ (∀ k, id? = some k → id = k) ∧
      r.at? [eventMember id?, "id"] = some (.int id) ∧
      r.at? [eventMember id?, "date"] = some (.string i.canonical) := by
  have hresolved := (EventCommand.date_resolvedDetails db command).trans hdate
  cases id? with
  | none =>
    cases h with
    | reading hreading => cases hreading
    | @createEvent _ details vs new made t hvenue htitle hrefers hnew hmade =>
      obtain rfl := hvenue.details_eq
      have hrow := hs.integrity.events.find?_insert? hnew
      obtain ⟨rfl, -⟩ := Table.new_of_insert? hnew
      have hstored : (Keyed.withId (db.events.lastId + 1)
          (EventRow.ofEvent now (Event.draft (command.resolvedDetails db)))).date = some i.stored :=
        congrArg (Option.map Instant.stored) hresolved
      have hid := (EventRow.shownAs_of_event hmade).id
      have hshown := EventRow.date_of_event hmade hstored
      refine ⟨_, _, made, hrow, hstored, hmade, nofun, ?_, ?_⟩
      · exact congrArg (fun id => some (Value.int id)) hid
      · exact congrArg (fun date => some (optionalDate date)) hshown
  | some id =>
    cases h with
    | reading hreading => cases hreading
    | @updateEvent _ _ row details vs made shown hrow hdraft hvenue htitle hrefers hmade hshown =>
      obtain rfl := hvenue.details_eq
      have hfind : (db.events.put (row.edited now (command.resolvedDetails db))).find? id = some _ :=
        Table.find?_put_of_id hrow rfl
      have hstored : (row.edited now (command.resolvedDetails db)).date = some i.stored :=
        congrArg (Option.map Instant.stored) hresolved
      have hid := (EventRow.shownAs_of_event hmade).id.trans (Table.id_of_find? hfind)
      have hdated := EventRow.date_of_event hmade hstored
      obtain rfl := event_of_withProgramme hshown
      refine ⟨id, _, _, hfind, hstored, hmade, fun _ h => Option.some.inj h, ?_, ?_⟩
      · exact congrArg (fun id => some (Value.int id)) hid
      · exact congrArg (fun date => some (optionalDate date)) hdated

end Http

namespace Session

open Http Instant

/-- The event of the id has the date: it is stored with it, and shown with it alone and in every listing, where it is
listed at all.  Without filters both listings have it. -/
structure ShowsDate (s : Session) (id : Int) (i : Instant) : Prop where
  stored : ∃ row, s.catalogue.events.find? id = some row ∧ row.date = some i.stored
  alone : ∀ now, ∃ shown : Event.WithProgramme, s.Answers now .event id (.shown shown) ∧
    (Response.shown shown).at? ["event", "date"] = some (.string i.canonical)
  listed : ∀ now, ∃ es : EventFilter → List Event,
    (∀ filter, s.Shows now (.event (.list filter)) (es filter) ∧
      ∀ e ∈ es filter, e.id = id → (encode e).at? ["date"] = some (.string i.canonical)) ∧
    ∃ e ∈ es ⟨none, none⟩, e.id = id
  timed : ∀ now, ∃ es : EventFilter → List Event.WithTimes,
    (∀ filter, s.Shows now (.event (.listWithTimes filter)) (es filter) ∧
      ∀ e ∈ es filter, e.event.id = id → (encode e).at? ["event", "date"] = some (.string i.canonical)) ∧
    ∃ e ∈ es ⟨none, none⟩, e.event.id = id

theorem showsDate_of_row {s : Session} {row : EventRow} {made : Event} {id : Int} {i : Instant}
    (hopen : s.isOpen = true) (h : s.catalogue.Sound) (hf : s.catalogue.Filled)
    (hrow : s.catalogue.events.find? id = some row) (hstored : row.date = some i.stored)
    (hmade : row.event = .ok made) : s.ShowsDate id i := by
  have hdate := EventRow.date_of_event hmade hstored
  have hid : made.id = id := (EventRow.shownAs_of_event hmade).id.trans (Table.id_of_find? hrow)
  -- whatever listing shows the event, it is the one of the row
  have honly : ∀ {row' : EventRow} {e : Event}, row' ∈ s.catalogue.events.rows → row'.event = .ok e → e.id = id →
      e = made := by
    intro row' e hrow' he hsame
    have hid' : row'.id = id := (EventRow.shownAs_of_event he).id.symm.trans hsame
    have hfind : s.catalogue.events.find? row'.id = some row' := h.integrity.events.find?_of_mem hrow'
    rw [hid', hrow] at hfind
    obtain rfl := Option.some.inj hfind
    exact Except.ok.inj (he.symm.trans hmade)
  refine ⟨⟨row, hrow, hstored⟩, fun now => ?_, fun now => ?_, fun now => ?_⟩
  · obtain ⟨shown, hread, hshown⟩ := answers_event hopen h hf hrow hmade
    refine ⟨shown, hread, ?_⟩
    exact congrArg (fun date => some (optionalDate date)) ((congrArg Event.date hshown).trans hdate)
  · obtain ⟨listed, timed, hlists⟩ := h.lists now now
    refine ⟨fun filter => listed filter.status filter.timeframe, fun filter => ⟨?_, fun e he hsame => ?_⟩, ?_⟩
    · exact shows_of_run rfl (hlists.listEvents filter.status filter.timeframe)
    · obtain ⟨row', hrow', he'⟩ := hlists.stored e ((hlists.part filter.status filter.timeframe).subset he)
      obtain rfl := honly hrow' he' hsame
      exact congrArg (fun date => some (optionalDate date)) hdate
    · obtain ⟨e, he, he'⟩ := hlists.all row (Table.mem_of_find? hrow)
      obtain rfl := Except.ok.inj (hmade.symm.trans he')
      exact ⟨_, he, hid⟩
  · obtain ⟨listed, timed, hlists⟩ := h.lists now now
    refine ⟨fun filter => timed filter.status filter.timeframe, fun filter => ⟨?_, fun e he hsame => ?_⟩, ?_⟩
    · exact shows_of_run rfl (hlists.listEventsWithTimes filter.status filter.timeframe)
    · have hmem := (hlists.same filter.status filter.timeframe).mem_iff.2 (List.mem_map_of_mem he)
      obtain ⟨row', hrow', he'⟩ := hlists.stored _ ((hlists.part filter.status filter.timeframe).subset hmem)
      have hevent := honly hrow' he' hsame
      exact congrArg (fun date => some (optionalDate date)) ((congrArg Event.date hevent).trans hdate)
    · obtain ⟨e, he, he'⟩ := hlists.all row (Table.mem_of_find? hrow)
      obtain rfl := Except.ok.inj (hmade.symm.trans he')
      obtain ⟨w, hw, hwevent⟩ := List.mem_map.1 ((hlists.same none none).mem_iff.1 he)
      exact ⟨w, hw, (congrArg Event.id hwevent).trans hid⟩

/-- Opening the catalogue again. -/
def reopening (s : Session) (closed opened : Instant) : Session :=
  (s.visited (closed, .close)).visited (opened, .reopen)

/-- **Dates survive**, whatever path they take.  A text that is read as a date writes fields that stand where the
instant does, a leap second being told from the second after it; the canonical text writes the fields of the instant
on a clock that is not ahead, and is read as the same instant, as is the text that is stored.  Whatever has reached the
service before, an event that is made or changed with such a text is answered with the canonical text, is stored, and
has the date wherever it is shown, also after the catalogue has been opened again.  Another text whose fields stand in
the same place is answered alike and leaves the same; at another moment all but the times of the event. -/
theorem dates_survive :
    (∀ (node : Node) (s : String) (i : Instant), Json.text node = .ok s → Json.instant node = .ok i →
      (∃ c ahead, Written s.toList c ahead) ∧
      (∀ c ahead, Written s.toList c ahead → i.moment 0 = c.moment ahead) ∧
      Written i.canonical.toList i.toCivil 0 ∧
      Json.instant (.string (.ofString i.canonical)) = .ok i ∧ ofStored? i.stored = some i) ∧
    ∀ (visits : List (Instant × Visit)) (now : Instant) (request : Request) (id? : Option Int)
      (t : Desk.DatedEventCommand) (d : DateText), request.Dates id? t d →
      (((after visits).respond now request).1.isSuccess = true →
        ∃ id, (∀ k, id? = some k → id = k) ∧
          ((after visits).respond now request).1.at? [eventMember id?, "id"] = some (.int id) ∧
          ((after visits).respond now request).1.at? [eventMember id?, "date"] =
            some (.string d.instant.canonical) ∧
          ((after visits).respond now request).2.ShowsDate id d.instant ∧
          ∀ closed opened,
            (((after visits).respond now request).2.reopening closed opened).ShowsDate id d.instant) ∧
      ∀ (later : Instant) (request' : Request) (d' : DateText) (c c' : Civil) (ahead ahead' : Int),
        request'.Dates id? (t.redated d') d' → Written d.text.toList c ahead → Written d'.text.toList c' ahead' →
        c.moment ahead = c'.moment ahead' →
        (after visits).respond now request = (after visits).respond now request' ∧
        ((after visits).respond now request).1 = ((after visits).respond later request').1 ∧
        ((after visits).respond now request).2.catalogue.untimed =
          ((after visits).respond later request').2.catalogue.untimed := by
  refine ⟨fun node s i hs hi => ?_, fun visits now request id? t d hdates => ⟨fun hsuccess => ?_, ?_⟩⟩
  · have hread : Instant.read? s = some i := by
      unfold Json.instant at hi
      simp only [hs] at hi
      split at hi
      · rename_i j hj
        rw [hj, Except.ok.inj hi]
      · cases hi
    obtain ⟨c, ahead, hwritten, -⟩ := read?_eq_some_iff.1 hread
    refine ⟨⟨c, ahead, hwritten⟩, fun _ _ h => moment_of_written hread h, written_canonical i, ?_,
      ofStored?_stored i⟩
    simp only [Json.instant, Json.text, Quoted.text_ofString, read?_canonical]
  · have hserving := serving_after visits
    obtain ⟨hopen, heffect⟩ := hserving.granted hdates.order_eq (isReading_writing _ _) hsuccess
    have hdate : t.command.event.date = some d.instant := congrArg (Option.map DateText.instant) hdates.date
    obtain ⟨id, row, made, hrow, hstored, hmade, hid, hshown⟩ := heffect.dated hserving.sound hdate
    have hleft : after (visits ++ [(now, .request request)]) = ((after visits).respond now request).2 := by
      rw [after_concat, visited_request hserving.kept]
    have hserving' := serving_after (visits ++ [(now, .request request)])
    have hwhole := whole_after (visits ++ [(now, .request request)])
    have hfilled : (after (visits ++ [(now, .request request)])).catalogue.Filled :=
      after_induction Catalogue.Filled.fresh (fun h => h) Order.Effect.filled _
    rw [hleft] at hserving' hwhole hfilled
    have hopen' : ((after visits).respond now request).2.isOpen = true := isOpen_respond.trans hopen
    have hshows := showsDate_of_row hopen' hserving'.sound hfilled hrow hstored hmade
    refine ⟨id, hid, hshown.1, hshown.2, hshows, fun closed opened => ?_⟩
    rw [reopening, hserving'.reopened_eq hopen' hwhole]
    exact hshows
  · intro later request' d' c c' ahead ahead' hdates' hwritten hwritten' hsame
    have hinstant : d'.instant = d.instant := by
      refine Instant.moment_injective ?_
      rw [moment_of_written d.reads hwritten, moment_of_written d'.reads hwritten', hsame]
    have horder' := hdates'.order_eq
    rw [Desk.DatedEventCommand.command_redated hdates.date hinstant] at horder'
    have hwrites := isReading_writing t.command id?
    obtain ⟨hresponse, halike⟩ := respond_alike now later (serving_after visits).sound.readable
      hdates.order_eq horder' (.same hwrites)
    refine ⟨?_, hresponse, halike.untimed_eq⟩
    simp only [respond, Http.respond, Http.respondClosed, hdates.order_eq, horder',
      trim_eq_of_order hdates.order_eq hwrites, trim_eq_of_order horder' hwrites]

/-- A leap second at the end of a year, as a clock shows it that is nine hours ahead. -/
def aheadOfTime : DateText :=
  ⟨"2017-01-01T08:59:60.5+09:00", ⟨⟨2016, 12, 31, 23, 59, 60, 500000000⟩, by decide⟩, by decide +kernel⟩

/-- The same, with digits that do not count. -/
def onTime : DateText :=
  ⟨"+2016-12 -31 23:59:60.500000000999utc", ⟨⟨2016, 12, 31, 23, 59, 60, 500000000⟩, by decide⟩, by decide +kernel⟩

/-- A request for a new event at a date. -/
def celebrating (date : String) : Request :=
  .ofJson "POST" "/events" ("\x7b\"event\":\x7b\"title\":\"T\",\"date\":\"" ++ date ++ "\"\x7d\x7d")

/-- What it carries. -/
def celebration (date : DateText) : Desk.DatedEventCommand :=
  ⟨{ title := "T", date := some date }, none, none⟩

theorem dates_survive_leap_second :
    (celebrating aheadOfTime.text).Dates none (celebration aheadOfTime) aheadOfTime ∧
    (celebrating onTime.text).Dates none (celebration onTime) onTime ∧
    ((after []).respond .spring (celebrating aheadOfTime.text)).1.at? ["data", "date"] =
      some (.string "2016-12-31T23:59:60.500Z") ∧
    ((after []).respond .spring (celebrating aheadOfTime.text)).2.ShowsDate 1 onTime.instant ∧
    (after []).respond .spring (celebrating aheadOfTime.text) =
      (after []).respond .spring (celebrating onTime.text) ∧
    Json.instant (.string (.ofString "2016-12-31T23:59:60.500Z")) = .ok onTime.instant := by
  have hahead : (celebrating aheadOfTime.text).Dates none (celebration aheadOfTime) aheadOfTime :=
    ⟨⟨by decide +kernel, by decide +kernel⟩, eq_ok_of_toOption (by decide +kernel), rfl⟩
  have honTime : (celebrating onTime.text).Dates none (celebration onTime) onTime :=
    ⟨⟨by decide +kernel, by decide +kernel⟩, eq_ok_of_toOption (by decide +kernel), rfl⟩
  have hsuccess : ((after []).respond .spring (celebrating aheadOfTime.text)).1.isSuccess = true := by
    decide +kernel
  have hwritten : Written aheadOfTime.text.toList ⟨2017, 1, 1, 8, 59, 60, 500000000⟩ 540 :=
    written_of_fields? (by decide +kernel)
  have hwritten' : Written onTime.text.toList ⟨2016, 12, 31, 23, 59, 60, 500000000⟩ 0 :=
    written_of_fields? (by decide +kernel)
  have hcanonical : onTime.instant.canonical = "2016-12-31T23:59:60.500Z" := by decide +kernel
  obtain ⟨hread, hserved⟩ := dates_survive
  obtain ⟨-, -, -, hback, -⟩ :=
    hread (.string (.ofString onTime.text)) onTime.text onTime.instant (Quoted.text_ofString _) (by
      simp only [Json.instant, Json.text, Quoted.text_ofString, onTime.reads])
  obtain ⟨hdone, hother⟩ := hserved [] .spring _ none _ _ hahead
  obtain ⟨id, -, -, hdate, hshows, -⟩ := hdone hsuccess
  obtain ⟨hsame, -⟩ := hother .spring (celebrating onTime.text) onTime _ _ _ _ honTime hwritten hwritten' (by decide)
  obtain rfl : id = 1 := by
    have hrows : ((after []).respond .spring (celebrating aheadOfTime.text)).2.catalogue.events.rows.map EventRow.id =
        [1] := by decide +kernel
    obtain ⟨row, hrow, -⟩ := hshows.stored
    have hmem := List.mem_map_of_mem (f := EventRow.id) (Table.mem_of_find? hrow)
    rw [hrows] at hmem
    exact (Table.id_of_find? hrow).symm.trans (List.mem_singleton.1 hmem)
  rw [hcanonical] at hback
  exact ⟨hahead, honTime, hdate, hshows, hsame, hback⟩

end Session

end Recital
