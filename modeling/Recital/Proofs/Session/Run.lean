import Recital.Proofs.Http.Service
import Recital.Proofs.Http.Soundness
import Recital.Session

/-!
# Runs of the service

* `Visit` : what reaches the service from outside.  `Session.after` : the session after any number of
  visits, from a new catalogue on.
* `Session.moments` : the visits of a run, each with the session that it reaches.
* `Session.Serving` : no unit of work is open, and the catalogue is sound.
* `Serving.visited_cases` : what one visit can do to the catalogue.
* `serving_after` : the service is serving after every run.
* `Serving.foldl_induction`, `after_induction` : what every effect keeps holds after every run.
* `frozen_run` : a programme that is performed throughout is frozen.
-/

set_option autoImplicit false

namespace Recital

/-- What reaches the service from outside. -/
inductive Visit where
  | request (request : Http.Request)
  | close
  | reopen
  deriving Repr

/-- The action of a visit. -/
def Visit.action : Visit → Action
  | request r => .request r
  | close => .close
  | reopen => .reopen

/-- A request with a body of JSON. -/
def Http.Request.ofJson (method target body : String) : Http.Request :=
  ⟨method, target, some "application/json", body⟩

/-- A moment in spring. -/
def Instant.spring : Instant :=
  ⟨⟨2026, 4, 1, 12, 0, 0, 0⟩, by decide⟩

namespace Session

/-- The session after a visit at a moment. -/
def visited (s : Session) (visit : Instant × Visit) : Session :=
  (s.act visit.1 visit.2.action).2

/-- The session after visits at their moments, from a new catalogue on. -/
def after (visits : List (Instant × Visit)) : Session :=
  visits.foldl visited {}

/-- The visits, each with the session that it reaches, from a session on. -/
def moments (s : Session) : List (Instant × Visit) → List (Session × Instant × Visit)
  | [] => []
  | visit :: visits => (s, visit) :: (s.visited visit).moments visits

/-- No unit of work is open, and the catalogue is sound. -/
structure Serving (s : Session) : Prop where
  kept : s.kept = none
  sound : s.catalogue.Sound

variable {s : Session} {now : Instant} {request : Http.Request}

/-! ## One visit -/

theorem respond_of_closed (hclosed : s.isOpen = false) : (s.respond now request).2 = s := by
  unfold respond
  rw [hclosed]
  rfl

theorem response_of_closed (hclosed : s.isOpen = false) :
    (s.respond now request).1 = Http.respondClosed now request := by
  unfold respond
  rw [hclosed]
  rfl

/-- A request that reaches an open catalogue is served. -/
theorem Serving.served (h : s.Serving) (hopen : s.isOpen = true) :
    Http.Served now request s.catalogue (s.respond now request).1
      (s.respond now request).2.catalogue := by
  unfold respond
  rw [if_pos hopen]
  exact Http.served_respond h.sound.readable

theorem kept_respond : (s.respond now request).2.kept = s.kept := by
  unfold respond
  split <;> rfl

theorem isOpen_respond : (s.respond now request).2.isOpen = s.isOpen := by
  unfold respond
  split <;> rfl

theorem dropped_eq (hkept : s.kept = none) : s.dropped = s := by
  obtain ⟨db, kept, isOpen⟩ := s
  obtain rfl : kept = none := hkept
  rfl

/-- A request that no unit of work keeps waiting leaves what its response leaves. -/
theorem visited_request (hkept : s.kept = none) :
    s.visited (now, .request request) = (s.respond now request).2 := by
  unfold visited act Visit.action
  simp only [hkept, Option.isSome_none, Bool.false_eq_true, if_false]

theorem visited_close (hkept : s.kept = none) :
    s.visited (now, .close) = { s with isOpen := false } := by
  have hvisited : s.visited (now, .close) = { s.dropped with isOpen := false } := rfl
  rw [hvisited, dropped_eq hkept]

theorem visited_reopen (hkept : s.kept = none) :
    s.visited (now, .reopen) = { catalogue := s.catalogue.seeded } := by
  have hvisited : s.visited (now, .reopen) = { catalogue := s.dropped.catalogue.seeded } := rfl
  rw [hvisited, dropped_eq hkept]

/-- A request succeeds by the effect of its order, or leaves the catalogue as it is. -/
theorem Serving.answered (h : s.Serving) (now : Instant) (request : Http.Request) :
    ((s.respond now request).1.isSuccess = true ∧ ∃ order r, request.order = .ok order ∧
        Http.Order.Effect now s.catalogue order r (s.respond now request).2.catalogue) ∨
      ((s.respond now request).1.isSuccess = false ∧
        (s.respond now request).2.catalogue = s.catalogue) := by
  cases hopen : s.isOpen with
  | false =>
    rw [respond_of_closed hopen]
    cases hsuccess : (s.respond now request).1.isSuccess with
    | false => exact Or.inr ⟨rfl, rfl⟩
    | true =>
      rw [response_of_closed hopen] at hsuccess
      exact Or.inl ⟨rfl, .health, .noContent, Http.order_of_isSuccess_closed hsuccess, .reading rfl rfl⟩
  | true =>
    have hserved : Http.Served now request s.catalogue _ _ := h.served hopen
    generalize (s.respond now request).1 = r at hserved
    generalize (s.respond now request).2.catalogue = db at hserved ⊢
    cases hserved with
    | refused horder =>
      rw [Http.isSuccess_trim, Http.Refusal.isSuccess_response]
      exact Or.inr ⟨rfl, rfl⟩
    | failed horder hexcused =>
      rw [Http.isSuccess_trim, Http.Response.isSuccess_ofFault]
      exact Or.inr ⟨rfl, rfl⟩
    | done horder heffect =>
      rw [Http.isSuccess_trim, heffect.isSuccess]
      exact Or.inl ⟨rfl, _, _, horder, heffect⟩

/-- A visit leaves the catalogue as it is, or seeds it, or has the effect of an order. -/
theorem Serving.visited_cases (h : s.Serving) (visit : Instant × Visit) :
    (s.visited visit).kept = none ∧
      ((s.visited visit).catalogue = s.catalogue ∨
        (s.visited visit).catalogue = s.catalogue.seeded ∨
        ∃ order r, Http.Order.Effect visit.1 s.catalogue order r (s.visited visit).catalogue) := by
  obtain ⟨now, visit⟩ := visit
  cases visit with
  | request request =>
    rw [visited_request h.kept]
    refine ⟨kept_respond.trans h.kept, ?_⟩
    rcases h.answered now request with ⟨-, order, r, -, heffect⟩ | ⟨-, hsame⟩
    · exact Or.inr (Or.inr ⟨order, r, heffect⟩)
    · exact Or.inl hsame
  | close =>
    rw [visited_close h.kept]
    exact ⟨h.kept, Or.inl rfl⟩
  | reopen =>
    rw [visited_reopen h.kept]
    exact ⟨rfl, Or.inr (Or.inl rfl)⟩

theorem Serving.visited (h : s.Serving) (visit : Instant × Visit) : (s.visited visit).Serving := by
  obtain ⟨hkept, hsame | hseeded | ⟨order, r, heffect⟩⟩ := h.visited_cases visit
  · exact ⟨hkept, hsame ▸ h.sound⟩
  · exact ⟨hkept, hseeded ▸ h.sound.seeded⟩
  · exact ⟨hkept, heffect.sound h.sound⟩

/-- A programme that is performed keeps its row and its slots in a visit. -/
theorem Serving.frozen (h : s.Serving) (visit : Instant × Visit) {p : Int}
    (hp : s.catalogue.Performed p) :
    (s.visited visit).catalogue.programmes.find? p = s.catalogue.programmes.find? p ∧
      (s.visited visit).catalogue.slotsOf p = s.catalogue.slotsOf p := by
  obtain ⟨-, hsame | hseeded | ⟨order, r, heffect⟩⟩ := h.visited_cases visit
  · rw [hsame]
    exact ⟨rfl, rfl⟩
  · rw [hseeded]
    exact ⟨rfl, rfl⟩
  · exact heffect.frozen h.sound.integrity hp

/-! ## Runs -/

theorem after_concat (visits : List (Instant × Visit)) (visit : Instant × Visit) :
    after (visits ++ [visit]) = (after visits).visited visit := by
  unfold after
  rw [List.foldl_append]
  rfl

theorem moments_append (visits rest : List (Instant × Visit)) :
    s.moments (visits ++ rest) = s.moments visits ++ (visits.foldl visited s).moments rest := by
  induction visits generalizing s with
  | nil => rfl
  | cons visit visits ih =>
    rw [List.cons_append, moments, moments, ih]
    rfl

theorem moments_concat (visits : List (Instant × Visit)) (visit : Instant × Visit) :
    ({} : Session).moments (visits ++ [visit]) =
      ({} : Session).moments visits ++ [(after visits, visit)] :=
  moments_append visits [visit]

theorem serving_new : ({} : Session).Serving :=
  ⟨rfl, Catalogue.Sound.fresh⟩

theorem serving_foldl (visits : List (Instant × Visit)) (h : s.Serving) :
    (visits.foldl Session.visited s).Serving := by
  induction visits generalizing s with
  | nil => exact h
  | cons visit visits ih => exact ih (h.visited visit)

/-- **Whatever has reached it, the service is serving.** -/
theorem serving_after (visits : List (Instant × Visit)) : (after visits).Serving :=
  serving_foldl visits serving_new

/-- What opening a catalogue again and every effect keep, visits keep. -/
theorem Serving.foldl_induction {P : Catalogue → Prop}
    (hseeded : ∀ {db : Catalogue}, P db → P db.seeded)
    (heffect : ∀ {now : Instant} {db db' : Catalogue} {order : Http.Order} {r : Http.Response},
      Http.Order.Effect now db order r db' → P db → P db')
    (h : s.Serving) (hs : P s.catalogue) (visits : List (Instant × Visit)) :
    P (visits.foldl Session.visited s).catalogue := by
  induction visits generalizing s with
  | nil => exact hs
  | cons visit visits ih =>
    refine ih (h.visited visit) ?_
    obtain ⟨-, hsame | hopened | ⟨order, r, hdone⟩⟩ := h.visited_cases visit
    · rw [hsame]
      exact hs
    · rw [hopened]
      exact hseeded hs
    · exact heffect hdone hs

/-- What a new catalogue has, and opening it again and every effect keep, every run leaves. -/
theorem after_induction {P : Catalogue → Prop} (hfresh : P .fresh)
    (hseeded : ∀ {db : Catalogue}, P db → P db.seeded)
    (heffect : ∀ {now : Instant} {db db' : Catalogue} {order : Http.Order} {r : Http.Response},
      Http.Order.Effect now db order r db' → P db → P db')
    (visits : List (Instant × Visit)) : P (after visits).catalogue :=
  serving_new.foldl_induction (P := P) hseeded heffect hfresh visits

/-- A programme that is performed before each of several visits keeps its row and its slots in all of
them. -/
theorem frozen_run {p : Int} (visits part : List (Instant × Visit))
    (hp : ∀ front, front <+: part → (after (visits ++ front)).catalogue.Performed p) :
    (after (visits ++ part)).catalogue.programmes.find? p =
        (after visits).catalogue.programmes.find? p ∧
      (after (visits ++ part)).catalogue.slotsOf p = (after visits).catalogue.slotsOf p := by
  induction part generalizing visits with
  | nil =>
    rw [List.append_nil]
    exact ⟨rfl, rfl⟩
  | cons visit part ih =>
    have hfirst : (after visits).catalogue.Performed p := by
      have h := hp [] List.nil_prefix
      rwa [List.append_nil] at h
    have hrest : ∀ front, front <+: part →
        (after (visits ++ [visit] ++ front)).catalogue.Performed p := by
      intro front hfront
      rw [List.append_assoc]
      exact hp (visit :: front) (List.cons_prefix_cons.2 ⟨rfl, hfront⟩)
    obtain ⟨hrow, hslots⟩ := (serving_after visits).frozen visit hfirst
    obtain ⟨hrow', hslots'⟩ := ih (visits ++ [visit]) hrest
    rw [List.append_cons]
    rw [after_concat] at hrow' hslots'
    exact ⟨hrow'.trans hrow, hslots'.trans hslots⟩

end Session

end Recital
