import Mathlib.Data.List.Induction
import Mathlib.Data.List.Nodup
import Recital.Proofs.Http.Allotment
import Recital.Proofs.Session.Failure

/-!
# Ids

* `Session.inserts` : whether a visit makes a new entity of a kind for good; `insertions` : how many visits of
  a run do.
* `Session.born` : the ids that are there after a visit and not before; `births` : those of a run.
* `Serving.allots` : a visit that inserts gives out the next id, and no other visit gives out any.
* `ids_successive` : the insertions of a run are given the ids from one on, each its own, whatever has been
  deleted, has failed or has been opened again in between.
-/

set_option autoImplicit false

namespace Recital

namespace Catalogue

variable {db db' : Catalogue} {inserts : Kind → Bool} {kind : Kind} {id : Int}

theorem Allots.given (h : db.Allots inserts db') (hkind : inserts kind = true) :
    db'.lastId kind = db.lastId kind + 1 ∧ db'.ids kind = db.ids kind ++ [db.lastId kind + 1] := by
  cases kind with
  | composer => exact h.composers.given hkind
  | piece => exact h.pieces.given hkind
  | programme => exact h.programmes.given hkind
  | venue => exact h.venues.given hkind
  | event => exact h.events.given hkind

theorem Allots.kept (h : db.Allots inserts db') (hkind : inserts kind = false) :
    db'.lastId kind = db.lastId kind ∧ List.Sublist (db'.ids kind) (db.ids kind) := by
  cases kind with
  | composer => exact h.composers.kept hkind
  | piece => exact h.pieces.kept hkind
  | programme => exact h.programmes.kept hkind
  | venue => exact h.venues.kept hkind
  | event => exact h.events.kept hkind

/-- No row has an id above the last one given out. -/
theorem Integrity.le_lastId (h : db.Integrity) (hid : id ∈ db.ids kind) : id ≤ db.lastId kind := by
  have hle : ∀ {α : Type} [Keyed α] {t : Table α}, t.Sound → id ∈ t.rows.map Keyed.id →
      id ≤ t.lastId := by
    intro α _ t ht hmem
    obtain ⟨row, hrow, rfl⟩ := List.mem_map.1 hmem
    exact ht.le_lastId row hrow
  cases kind with
  | composer => exact hle h.composers hid
  | piece => exact hle h.pieces hid
  | programme => exact hle h.programmes hid
  | venue => exact hle h.venues hid
  | event => exact hle h.events hid

end Catalogue

namespace Session

/-! ## One visit -/

/-- Whether a visit makes a new entity of a kind for good: it is a request for that, and is answered with
success. -/
def inserts (s : Session) (kind : Kind) : Instant × Visit → Bool
  | (now, .request request) => (s.respond now request).1.isSuccess &&
    match request.order with
    | .ok order => order.inserts kind
    | .error _ => false
  | _ => false

/-- The ids of a kind that are there after a visit and not before. -/
def born (s : Session) (kind : Kind) (visit : Instant × Visit) : List Int :=
  ((s.visited visit).catalogue.ids kind).filter fun id => id ∉ s.catalogue.ids kind

variable {s : Session} {kind : Kind} {visit : Instant × Visit}

/-- A visit gives out an id of each kind that it inserts. -/
theorem Serving.allots (h : s.Serving) (visit : Instant × Visit) :
    s.catalogue.Allots (s.inserts · visit) (s.visited visit).catalogue := by
  obtain ⟨now, visit⟩ := visit
  cases visit with
  | request request =>
    rw [visited_request h.kept]
    rcases h.answered now request with ⟨hsuccess, order, r, horder, heffect⟩ | ⟨hfails, hsame⟩
    · have hinserts : (s.inserts · (now, .request request)) = order.inserts := by
        funext kind
        simp only [inserts, hsuccess, horder, Bool.true_and]
      rw [hinserts]
      exact heffect.allots
    · have hinserts : (s.inserts · (now, .request request)) = fun _ => false := by
        funext kind
        simp only [inserts, hfails, Bool.false_and]
      rw [hinserts, hsame]
      exact {}
  | close =>
    rw [visited_close h.kept]
    exact {}
  | reopen =>
    rw [visited_reopen h.kept]
    exact {}

/-- A visit that inserts brings the next id into being. -/
theorem Serving.born_of_inserts (h : s.Serving) (hinserts : s.inserts kind visit = true) :
    s.born kind visit = [s.catalogue.lastId kind + 1] := by
  have hids := ((h.allots visit).given hinserts).2
  have hnew : s.catalogue.lastId kind + 1 ∉ s.catalogue.ids kind := by
    intro hmem
    have hle := h.sound.integrity.le_lastId hmem
    omega
  have hold : (s.catalogue.ids kind).filter (fun id => id ∉ s.catalogue.ids kind) = [] := by
    simp
  rw [born, hids, List.filter_append, hold, List.nil_append, List.filter_singleton,
    decide_eq_true hnew]
  rfl

/-- Any other visit brings none. -/
theorem Serving.born_of_not_inserts (h : s.Serving) (hinserts : s.inserts kind visit = false) :
    s.born kind visit = [] := by
  have hids := ((h.allots visit).kept hinserts).2
  rw [born, List.filter_eq_nil_iff]
  intro id hid
  simpa using hids.subset hid

/-! ## Runs -/

/-- The number of visits of a run that make a new entity of a kind for good. -/
def insertions (kind : Kind) (visits : List (Instant × Visit)) : Nat :=
  (({} : Session).moments visits).countP fun moment => moment.1.inserts kind moment.2

/-- The ids of a kind that come into being in a run, in that order. -/
def births (kind : Kind) (visits : List (Instant × Visit)) : List Int :=
  (({} : Session).moments visits).flatMap fun moment => moment.1.born kind moment.2

theorem insertions_concat (visits : List (Instant × Visit)) :
    insertions kind (visits ++ [visit]) =
      insertions kind visits + if (after visits).inserts kind visit then 1 else 0 := by
  rw [insertions, moments_concat, List.countP_append, List.countP_singleton]
  rfl

theorem births_concat (visits : List (Instant × Visit)) :
    births kind (visits ++ [visit]) = births kind visits ++ (after visits).born kind visit := by
  rw [births, moments_concat, List.flatMap_append, List.flatMap_singleton]
  rfl

/-- The last id given out is the number of insertions. -/
theorem lastId_after (visits : List (Instant × Visit)) (kind : Kind) :
    (after visits).catalogue.lastId kind = insertions kind visits := by
  induction visits using List.reverseRecOn with
  | nil => cases kind <;> rfl
  | append_singleton visits visit ih =>
    have hallots := (serving_after visits).allots visit
    rw [after_concat, insertions_concat]
    cases hinserts : (after visits).inserts kind visit with
    | true =>
      rw [(hallots.given hinserts).1, ih]
      rfl
    | false => exact (hallots.kept hinserts).1.trans ih

/-- The ids that come into being are those from one on. -/
theorem births_eq (visits : List (Instant × Visit)) (kind : Kind) :
    births kind visits =
      (List.range (insertions kind visits)).map fun k : Nat => 1 + (k : Int) := by
  induction visits using List.reverseRecOn with
  | nil => rfl
  | append_singleton visits visit ih =>
    have hserving := serving_after visits
    rw [births_concat, insertions_concat, ih]
    cases hinserts : (after visits).inserts kind visit with
    | true =>
      rw [hserving.born_of_inserts hinserts, lastId_after, if_pos rfl, List.range_succ,
        List.map_append, List.map_singleton, Int.add_comm]
    | false =>
      rw [hserving.born_of_not_inserts hinserts, List.append_nil]
      rfl

/-- Every id that is there has come into being. -/
theorem mem_births (visits : List (Instant × Visit)) (kind : Kind) {id : Int}
    (hid : id ∈ (after visits).catalogue.ids kind) : id ∈ births kind visits := by
  induction visits using List.reverseRecOn with
  | nil => cases kind <;> cases hid
  | append_singleton visits visit ih =>
    rw [after_concat] at hid
    rw [births_concat, List.mem_append]
    by_cases hold : id ∈ (after visits).catalogue.ids kind
    · exact Or.inl (ih hold)
    · exact Or.inr (List.mem_filter.2 ⟨hid, decide_eq_true hold⟩)

/-- **Ids are given out one after another, and never twice**, whatever has reached the service.  What a visit
inserts gets the number of the insertion for its id, and any other visit at most removes rows.  So the ids
that ever come into being are those from one to the number of insertions, each once, and every row has one of
them. -/
theorem ids_successive (visits : List (Instant × Visit)) (kind : Kind) :
    (∀ visit, (after visits).inserts kind visit = true →
      ((after visits).visited visit).catalogue.ids kind =
        (after visits).catalogue.ids kind ++ [(insertions kind visits : Int) + 1]) ∧
    (∀ visit, (after visits).inserts kind visit = false →
      List.Sublist (((after visits).visited visit).catalogue.ids kind)
        ((after visits).catalogue.ids kind)) ∧
    births kind visits =
      (List.range (insertions kind visits)).map (fun k : Nat => 1 + (k : Int)) ∧
    (births kind visits).Nodup ∧
    ∀ id ∈ (after visits).catalogue.ids kind, id ∈ births kind visits := by
  have hserving := serving_after visits
  refine ⟨fun visit hinserts => ?_, fun visit hinserts => ?_, births_eq visits kind, ?_,
    fun id hid => mem_births visits kind hid⟩
  · rw [← lastId_after visits kind]
    exact ((hserving.allots visit).given hinserts).2
  · exact ((hserving.allots visit).kept hinserts).2
  · rw [births_eq]
    refine List.Nodup.map (fun a b hab => ?_) List.nodup_range
    omega

/-- A request that makes a composer, whatever id it names. -/
def hiring : Http.Request :=
  .ofJson "POST" "/composers" "\x7b\"id\":7,\"full_name\":\"A\",\"short_name\":\"B\"\x7d"

-- the id of a composer that is deleted before the catalogue is opened again stays its own
example : births .composer
    [(.spring, .request hiring), (.spring, .request (.ofJson "DELETE" "/composers/1" "")),
      (.spring, .close), (.spring, .reopen), (.spring, .request hiring)] = [1, 2] := by
  decide +kernel

end Session

end Recital
