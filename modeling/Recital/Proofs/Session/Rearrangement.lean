import Recital.Proofs.Desk.Refusals
import Recital.Proofs.Session.Publication
import Recital.Proofs.Session.Reading

/-!
# Pieces of a programme are rearranged

* `sequenced_eq_mapIdx` : listed pieces are numbered from one on.
* `Order.rearranges`, `Visit.rearranges` : what can take a programme away or change its slots.
  `Effect.holds`, `Serving.holds_foldl` : nothing else does.
* `Catalogue.refusal?` : why the pieces of a programme cannot be replaced.
* `Session.Filled` : the slots of a programme hold the listed pieces, and so does what is read of it, until
  something rearranges them.
* `pieces_rearranged` : after every run, replacing the pieces of a programme ends with the first reason against
  it, or fills the programme with the listed pieces and no other one.
-/

set_option autoImplicit false

namespace Recital

/-! ## Numbers -/

theorem sequencedFrom_eq_mapIdx (first : Int) (pieceIds : List Int) :
    sequencedFrom first pieceIds = pieceIds.mapIdx fun k pieceId => (first + (k : Int), pieceId) := by
  induction pieceIds generalizing first with
  | nil => rfl
  | cons pieceId pieceIds ih =>
    rw [sequencedFrom, ih, List.mapIdx_cons]
    congr 1
    · simp
    · congr 1
      funext k id
      simp only [Prod.mk.injEq, and_true]
      omega

/-- The piece at the place `k`, counted from zero, gets the number `k + 1`. -/
theorem sequenced_eq_mapIdx (pieceIds : List Int) :
    sequenced pieceIds = pieceIds.mapIdx fun k pieceId => ((k : Int) + 1, pieceId) := by
  rw [sequenced, sequencedFrom_eq_mapIdx]
  congr 1
  funext k id
  rw [Int.add_comm]

/-! ## Slots that nothing rearranges -/

/-- Whether an order can change the slots of a programme. -/
def Http.Order.rearranges (p : Int) : Http.Order → Bool
  | .programme (.replacePieces id _) => id = p
  | .programme (.delete id) => id = p
  | _ => false

/-- Whether a visit can. -/
def Visit.rearranges (p : Int) : Visit → Bool
  | .request r => match r.order with
    | .ok order => order.rearranges p
    | .error _ => false
  | .close => false
  | .reopen => false

/-- A programme is there with the same slots. -/
structure Catalogue.Holds (db : Catalogue) (p : Int) (slots : List Slot) : Prop where
  programme : db.has .programme p = true
  slots : db.slotsOf p = slots

/-- **Only what rearranges a programme takes it away or changes its slots.** -/
theorem Http.Order.Effect.holds {now : Instant} {db db' : Catalogue} {order : Order} {r : Response}
    {p : Int} {slots : List Slot} (h : order.Effect now db r db') (hnot : order.rearranges p = false)
    (hp : db.Holds p slots) : db'.Holds p slots := by
  cases h with
  | createProgramme hvalid hnew => exact ⟨(Table.Grows.insert? hnew).has hp.programme, hp.slots⟩
  | updateProgramme hvalid hhas hfree => exact ⟨Table.Grows.put.has hp.programme, hp.slots⟩
  | replacePieces hhas hfree hpieces hshown =>
    have hne := Ne.symm (of_decide_eq_false hnot)
    exact ⟨hp.programme, (Catalogue.slotsOf_replacedSlots_of_ne hne).trans hp.slots⟩
  | deleteProgramme hhas hfree =>
    have hne := Ne.symm (of_decide_eq_false hnot)
    exact ⟨Table.has_erase.2 ⟨hp.programme, hne⟩, (Catalogue.slotsOf_filter_of_ne hne).trans hp.slots⟩
  | _ => exact ⟨hp.programme, hp.slots⟩

namespace Session

variable {s : Session} {p : Int} {slots : List Slot}

theorem Serving.holds_visited (h : s.Serving) {visit : Instant × Visit}
    (hnot : visit.2.rearranges p = false) (hp : s.catalogue.Holds p slots) :
    (s.visited visit).catalogue.Holds p slots := by
  obtain ⟨now, visit⟩ := visit
  cases visit with
  | request r =>
    rw [visited_request h.kept]
    rcases h.answered now r with ⟨-, order, response, horder, heffect⟩ | ⟨-, hsame⟩
    · refine heffect.holds ?_ hp
      simpa only [Visit.rearranges, horder] using hnot
    · rwa [hsame]
  | close => rwa [visited_close h.kept]
  | reopen =>
    rw [visited_reopen h.kept]
    exact ⟨hp.programme, hp.slots⟩

theorem Serving.holds_foldl (h : s.Serving) (visits : List (Instant × Visit))
    (hnot : ∀ visit ∈ visits, visit.2.rearranges p = false) (hp : s.catalogue.Holds p slots) :
    (visits.foldl Session.visited s).catalogue.Holds p slots := by
  induction visits generalizing s with
  | nil => exact hp
  | cons visit visits ih =>
    have hfirst := h.holds_visited (hnot visit (List.mem_cons_self ..)) hp
    exact ih (h.visited visit) (fun v hv => hnot v (List.mem_cons_of_mem _ hv)) hfirst

end Session

/-! ## Replacing -/

namespace Catalogue

variable {db : Catalogue} {id : Int} {pieceIds : List Int}

/-- Why the pieces of a programme cannot be replaced by listed ones: it is not there, a published event performs
it, or one of the pieces is not there. -/
def refusal? (db : Catalogue) (id : Int) (pieceIds : List Int) : Option Fault :=
  if db.has .programme id = false then some .notFound
  else if db.Performed id then some .programmeImmutable
  else if ∃ pieceId ∈ pieceIds, db.has .piece pieceId = false then some .notFound
  else none

theorem refusal?_eq_none_iff : db.refusal? id pieceIds = none ↔
    db.has .programme id = true ∧ ¬ db.Performed id ∧ ∀ k ∈ pieceIds, db.has .piece k = true := by
  unfold refusal?
  split_ifs with hmissing hperformed hpiece
  · simp [hmissing]
  · simp [hperformed]
  · obtain ⟨k, hk, hno⟩ := hpiece
    refine iff_of_false (fun h => nomatch h) fun h => ?_
    cases hno.symm.trans (h.2.2 k hk)
  · refine ⟨fun _ => ⟨eq_true_of_ne_false hmissing, hperformed, fun k hk => ?_⟩, fun _ => rfl⟩
    exact eq_true_of_ne_false fun hno => hpiece ⟨k, hk, hno⟩

/-- The first reason against it is the fault, and nothing has changed. -/
theorem replacePieces_run_of_refused {f : Fault} (h : db.refusal? id pieceIds = some f) :
    (Desk.replacePieces id pieceIds).run.run db = (.error f, db) := by
  unfold refusal? at h
  split_ifs at h with hmissing hperformed hpiece
  · obtain rfl := Option.some.inj h
    exact guarded_run_of_missing hmissing
  · obtain rfl := Option.some.inj h
    refine guarded_run_of_blocked (eq_true_of_ne_false hmissing) fun hcount => ?_
    exact Dependency.programmePublishedEvents_eq_zero.1 hcount hperformed
  · obtain rfl := Option.some.inj h
    refine guarded_run_of_error (eq_true_of_ne_false hmissing)
      (Dependency.programmePublishedEvents_eq_zero.2 hperformed) ?_
    have hdistinct : ∃ k ∈ Desk.distinct pieceIds, db.has .piece k = false := by
      simpa only [Desk.mem_distinct] using hpiece
    rw [Step.bind_run_of_error (Desk.requirePieces_run_of_missing hdistinct)]

end Catalogue

namespace Session

/-- The slots of a programme hold the listed pieces, each under its number, and this is what is read of it, now
and after any visits that do not rearrange it. -/
structure Filled (s : Session) (id : Int) (pieceIds : List Int) : Prop where
  slots : (s.catalogue.slotsOf id).map (fun slot => (slot.sequence, slot.pieceId)) =
    pieceIds.mapIdx fun k pieceId => ((k : Int) + 1, pieceId)
  read : ∀ visits : List (Instant × Visit), (∀ visit ∈ visits, visit.2.rearranges id = false) →
    ∃ whole, (Listing.programmeWithPieces id).run (visits.foldl Session.visited s).catalogue =
        (.ok whole, (visits.foldl Session.visited s).catalogue) ∧
      whole.pieces.map (fun entry => (entry.sequence, entry.piece.id)) =
        pieceIds.mapIdx fun k pieceId => ((k : Int) + 1, pieceId)

variable {s : Session} {id : Int} {pieceIds : List Int}

theorem Serving.filled (h : s.Serving) (hfilled : s.catalogue.Filled)
    (hholds : s.catalogue.Holds id (Catalogue.slotsFor id (sequenced pieceIds))) :
    s.Filled id pieceIds := by
  have hnumbers : (Catalogue.slotsFor id (sequenced pieceIds)).map
      (fun slot => (slot.sequence, slot.pieceId)) =
      pieceIds.mapIdx fun k pieceId => ((k : Int) + 1, pieceId) := by
    rw [Catalogue.map_slotsFor, sequenced_eq_mapIdx]
  refine ⟨hholds.slots ▸ hnumbers, fun visits hnot => ?_⟩
  have hserving := serving_foldl visits h
  have hlater : (visits.foldl Session.visited s).catalogue.Filled :=
    h.foldl_induction (P := Catalogue.Filled) (fun h => h) Http.Order.Effect.filled hfilled visits
  have hheld := h.holds_foldl visits hnot hholds
  obtain ⟨programme, hprogramme⟩ := Table.find?_of_has hheld.programme
  obtain ⟨entries, hentries, hshow⟩ := Listing.piecesOf_run hserving.sound.integrity hlater id
  refine ⟨_, programmeWithPieces_run hprogramme hentries, ?_⟩
  rw [map_of_shows hshow, hheld.slots, hnumbers]

/-- **The pieces of a programme are replaced unless it is not there, is performed, or a piece is not there**,
whatever has reached the service.  The first reason against it is the fault, and nothing has changed then.
Otherwise the programme holds the listed pieces, a piece that is listed twice in two slots, and no other slot,
row or programme is different. -/
theorem pieces_rearranged (visits : List (Instant × Visit)) (id : Int) (pieceIds : List Int) :
    match (after visits).catalogue.refusal? id pieceIds with
    | some f => (Desk.replacePieces id pieceIds).run.run (after visits).catalogue =
        (.error f, (after visits).catalogue)
    | none => ∃ whole slots, (Desk.replacePieces id pieceIds).run.run (after visits).catalogue =
          (.ok whole, { (after visits).catalogue with slots := slots }) ∧
        (after visits).catalogue.programmes.find? id = some whole.programme ∧
        whole.pieces.map (fun entry => (entry.sequence, entry.piece.id)) =
          pieceIds.mapIdx (fun k pieceId => ((k : Int) + 1, pieceId)) ∧
        { after visits with catalogue := { (after visits).catalogue with slots := slots } }.Filled
          id pieceIds ∧
        ∀ p, p ≠ id → { (after visits).catalogue with slots := slots }.slotsOf p =
          (after visits).catalogue.slotsOf p := by
  have hserving := serving_after visits
  have hfilled : (after visits).catalogue.Filled :=
    after_induction Catalogue.Filled.fresh (fun h => h) Http.Order.Effect.filled visits
  generalize after visits = s at *
  cases hrefusal : s.catalogue.refusal? id pieceIds with
  | some f => exact Catalogue.replacePieces_run_of_refused hrefusal
  | none =>
    obtain ⟨hhas, hfree, hpieces⟩ := Catalogue.refusal?_eq_none_iff.1 hrefusal
    have hintegrity := hserving.sound.integrity.replaceSlots hhas hpieces
    have hreplaced : { s.catalogue with slots := s.catalogue.replacedSlots id pieceIds }.Filled :=
      hfilled.replaceSlots
    obtain ⟨programme, hprogramme⟩ := Table.find?_of_has hhas
    obtain ⟨entries, hentries, hshow⟩ := Listing.piecesOf_run hintegrity hreplaced id
    have hfound : { s.catalogue with
        slots := s.catalogue.replacedSlots id pieceIds }.programmes.find? id = some programme := hprogramme
    have hshown := programmeWithPieces_run hfound hentries
    have heffect : Http.Order.Effect .spring s.catalogue _ _ _ :=
      .replacePieces hhas hfree hpieces hshown
    refine ⟨_, _, Http.replacePieces_run hhas hfree hpieces hshown, hprogramme, ?_, ?_, ?_⟩
    · rw [map_of_shows hshow, Catalogue.slotsOf_replacedSlots_self, Catalogue.map_slotsFor,
        sequenced_eq_mapIdx]
    · refine Serving.filled ⟨hserving.kept, heffect.sound hserving.sound⟩ hreplaced ?_
      exact ⟨hhas, Catalogue.slotsOf_replacedSlots_self⟩
    · exact fun p hp => Catalogue.slotsOf_replacedSlots_of_ne hp

end Session

end Recital
