import Recital.Proofs.Http.Site
import Recital.Proofs.Session.Run

/-!
# Requests that fail

* `respond_atomic` : a request that does not succeed leaves no trace, and nor does one that only reads.
* `no_internal_failure` : as long as there are ids left, no request on an open catalogue fails by a fault
  of the system, no id stands twice, and every row of an event decodes.
-/

set_option autoImplicit false

namespace Recital

namespace Catalogue

/-- The ids of the entities of a kind. -/
def ids (db : Catalogue) : Kind → List Int
  | .composer => db.composers.rows.map Keyed.id
  | .piece => db.pieces.rows.map Keyed.id
  | .programme => db.programmes.rows.map Keyed.id
  | .venue => db.venues.rows.map Keyed.id
  | .event => db.events.rows.map Keyed.id

variable {db : Catalogue}

theorem Integrity.nodup_ids (h : db.Integrity) (kind : Kind) : (db.ids kind).Nodup := by
  cases kind with
  | composer => exact h.composers.nodup
  | piece => exact h.pieces.nodup
  | programme => exact h.programmes.nodup
  | venue => exact h.venues.nodup
  | event => exact h.events.nodup

theorem Integrity.lastId_le (h : db.Integrity) (kind : Kind) : db.lastId kind ≤ Text.maxInt64 := by
  cases kind with
  | composer => exact h.composers.lastId_le
  | piece => exact h.pieces.lastId_le
  | programme => exact h.programmes.lastId_le
  | venue => exact h.venues.lastId_le
  | event => exact h.events.lastId_le

/-- Where every table has an id left, only the faults of requests are excused. -/
theorem Excuses.isBusinessRule {e : Fault} (h : db.Excuses e) (hi : db.Integrity)
    (hids : ∀ kind, db.lastId kind ≠ Text.maxInt64) : e.isBusinessRule = true := by
  rcases h with h | ⟨kind, hle⟩
  · exact h
  · have := hi.lastId_le kind
    exact absurd (by omega) (hids kind)

end Catalogue

theorem Fault.statusCode_lt {e : Fault} (h : e.isBusinessRule = true) : e.statusCode < 500 := by
  cases e with
  | invariantBroken detail => cases h
  | database => cases h
  | io => cases h
  | configuration detail => cases h
  | _ => simp [statusCode]

theorem Http.Refusal.status_lt (refusal : Refusal) : refusal.status < 500 := by
  cases refusal <;> decide

theorem Http.Response.status_lt {r : Response} (h : r.isSuccess = true) : r.status < 500 := by
  simp only [Response.isSuccess, Bool.and_eq_true, decide_eq_true_eq] at h
  omega

namespace Session

/-! ## Requests without a trace -/

/-- **A request that does not succeed, or that only reads, leaves the catalogue as it is**, whatever has
reached the service before. -/
theorem respond_atomic (visits : List (Instant × Visit)) (now : Instant) (request : Http.Request)
    (h : ((after visits).respond now request).1.isSuccess = false ∨
      request.method = "GET" ∨ request.method = "HEAD") :
    ((after visits).respond now request).2.catalogue = (after visits).catalogue := by
  have hserving := serving_after visits
  generalize after visits = s at *
  cases hopen : s.isOpen with
  | false => rw [respond_of_closed hopen]
  | true =>
    have hserved : Http.Served now request s.catalogue _ _ := hserving.served hopen
    generalize (s.respond now request).1 = r at h hserved
    generalize (s.respond now request).2.catalogue = db at hserved ⊢
    cases hserved with
    | refused horder => rfl
    | failed horder hexcused => rfl
    | done horder heffect =>
      rcases h with hfails | hmethod
      · rw [Http.isSuccess_trim, heffect.isSuccess] at hfails
        cases hfails
      · refine heffect.eq_of_isReading (Http.isReading_of_order ?_ horder)
        rcases hmethod with hmethod | hmethod
        · rw [hmethod]
          rfl
        · rw [hmethod]
          rfl

/-- A composer is created for a piece that has no title. -/
def untitled : Http.Request :=
  .ofJson "POST" "/pieces"
    ("\x7b\"piece\":\x7b\"operation\":\"CREATE\",\"data\":\x7b\"title\":\" \"\x7d\x7d," ++
      "\"composer\":\x7b\"operation\":\"CREATE\",\"data\":\x7b\"full_name\":\"A\"," ++
      "\"short_name\":\"B\"\x7d\x7d\x7d")

theorem respond_atomic_untitled :
    ((after []).respond .spring untitled).1.isSuccess = false ∧
      ((after []).respond .spring untitled).2.catalogue = (after []).catalogue := by
  have hfails : ((after []).respond .spring untitled).1.isSuccess = false := by decide +kernel
  exact ⟨hfails, respond_atomic [] .spring untitled (Or.inl hfails)⟩

/-! ## Faults of the system -/

/-- **No fault of the system is reachable**: as long as there are ids left, a request on an open catalogue
is answered below 500, its use case fails by faults of requests only, every id has one row, and every row
of an event decodes. -/
theorem no_internal_failure (visits : List (Instant × Visit)) (hopen : (after visits).isOpen = true)
    (hids : ∀ kind, (after visits).catalogue.lastId kind ≠ Text.maxInt64) (now : Instant)
    (request : Http.Request) :
    ((after visits).respond now request).1.status < 500 ∧
      (∀ order plan e, request.order = .ok order → order.plan now = .inr plan →
        (plan.run.run (after visits).catalogue).1 = .error e → e.isBusinessRule = true) ∧
      (∀ kind, ((after visits).catalogue.ids kind).Nodup) ∧
      ∀ row ∈ (after visits).catalogue.events.rows, ∃ e, Listing.eventWithTimes row = .ok e := by
  have hserving := serving_after visits
  generalize after visits = s at *
  have hintegrity := hserving.sound.integrity
  refine ⟨?_, ?_, hintegrity.nodup_ids, fun row hrow => ?_⟩
  · have hserved : Http.Served now request s.catalogue _ _ := hserving.served hopen
    generalize (s.respond now request).1 = r at hserved ⊢
    generalize (s.respond now request).2.catalogue = db at hserved
    cases hserved with
    | refused horder =>
      rw [Http.status_trim]
      exact Http.Refusal.status_lt _
    | failed horder hexcused =>
      rw [Http.status_trim]
      exact Fault.statusCode_lt (hexcused.isBusinessRule hintegrity hids)
    | done horder heffect =>
      rw [Http.status_trim]
      exact Http.Response.status_lt heffect.isSuccess
  · intro order plan e horder hplan hfails
    have hmeets := Http.meets_plan hserving.sound.readable hplan
    unfold Step.Meets at hmeets
    cases hrun : plan.run.run s.catalogue with
    | mk result db =>
      rw [hrun] at hmeets hfails
      obtain rfl : result = .error e := hfails
      exact hmeets.2.isBusinessRule hintegrity hids
  · exact (hserving.sound.events row hrow).readable.eventWithTimes

theorem no_internal_failure_untitled : (after []).isOpen = true ∧
    (∀ kind, (after []).catalogue.lastId kind ≠ Text.maxInt64) ∧
    ((after []).respond .spring untitled).1.status < 500 := by
  have hids : ∀ kind, (after []).catalogue.lastId kind ≠ Text.maxInt64 := by
    intro kind
    cases kind <;> decide
  exact ⟨rfl, hids, (no_internal_failure [] rfl hids .spring untitled).1⟩

end Session

end Recital
