import Mathlib.Data.List.Induction
import Mathlib.Data.List.Nodup
import Recital.Proofs.Session.Run

/-!
# Opening the catalogue again

* `Biographies.variants` : the variants of the rows.  `prefix_seeded`, `nodup_seeded` : seeding keeps every
  row where it is, and gives no variant a second one.
* `Biographies.Whole` : each variant has one row, so that seeding adds none.  Every effect keeps this.
* `Turn` : a request, or the catalogue is closed and opened again.
* `Session.responses` : what the requests of a run are answered.
* `reopening_unseen` : wherever the catalogue is opened again, every response and all that is left are as
  without it.
-/

set_option autoImplicit false

namespace Recital

/-! ## Biographies -/

namespace Biographies

variable {b : Biographies} {row : Biography} {v : Biography.Variant}

/-- The variants of the rows. -/
def variants (b : Biographies) : List Biography.Variant :=
  b.rows.map Biography.variant

theorem has_iff : b.has v = true ↔ v ∈ b.variants := by
  simp [has, variants]

theorem add_of_has (h : b.has row.variant = true) : b.add row = b :=
  if_pos h

theorem prefix_add : b.rows <+: (b.add row).rows := by
  unfold add
  split
  · exact List.prefix_rfl
  · exact List.prefix_append _ _

theorem nodup_add (h : b.variants.Nodup) : (b.add row).variants.Nodup := by
  unfold add
  split
  · exact h
  · rename_i hhas
    have hnew : row.variant ∉ b.variants := fun hmem => hhas (has_iff.2 hmem)
    have hvariants : variants ⟨b.rows ++ [row]⟩ = b.variants ++ [row.variant] := by
      simp [variants]
    rw [hvariants, List.nodup_append_comm]
    exact List.nodup_cons.2 ⟨hnew, h⟩

/-- Seeding changes no row. -/
theorem prefix_seeded (b : Biographies) : b.rows <+: b.seeded.rows :=
  prefix_add.trans prefix_add

/-- Seeding gives no variant a second row. -/
theorem nodup_seeded (h : b.variants.Nodup) : b.seeded.variants.Nodup :=
  nodup_add (nodup_add h)

theorem variants_put (h : b.has row.variant = true) : (b.put row).variants = b.variants := by
  rw [put, if_pos h, variants, modify, List.map_map, variants]
  refine List.map_congr_left fun r _ => ?_
  simp only [Function.comp]
  split <;> rfl

/-- Each variant has one row. -/
def Whole (b : Biographies) : Prop :=
  b.variants = [.full, .short]

theorem Whole.fresh : Catalogue.fresh.biographies.Whole :=
  rfl

theorem Whole.has (h : b.Whole) (v : Biography.Variant) : b.has v = true := by
  rw [has_iff, h]
  cases v <;> decide

theorem Whole.put (h : b.Whole) : (b.put row).Whole :=
  (variants_put (h.has row.variant)).trans h

/-- There is nothing to seed. -/
theorem Whole.seeded_eq (h : b.Whole) : b.seeded = b := by
  have hfull : b.add ⟨"", .full⟩ = b := add_of_has (h.has .full)
  have hshort : b.add ⟨"", .short⟩ = b := add_of_has (h.has .short)
  rw [seeded, hfull, hshort]

end Biographies

theorem Biographies.Whole.seeded {db : Catalogue} (h : db.biographies.Whole) :
    db.seeded.biographies.Whole := by
  rw [Catalogue.seeded, h.seeded_eq]
  exact h

theorem Catalogue.seeded_eq {db : Catalogue} (h : db.biographies.Whole) : db.seeded = db := by
  rw [seeded, h.seeded_eq]

theorem Http.Order.Effect.whole {now : Instant} {db db' : Catalogue} {order : Http.Order}
    {r : Http.Response} (h : order.Effect now db r db') (hw : db.biographies.Whole) :
    db'.biographies.Whole := by
  cases h with
  | updateBiography hvariant => exact hw.put
  | _ => exact hw

/-! ## Turns -/

/-- What happens to the service between its start and its end: a request reaches it, or its catalogue is
closed and opened again. -/
inductive Turn where
  | request (now : Instant) (request : Http.Request)
  | reopening (closed opened : Instant)
  deriving Repr

/-- The visits of a turn. -/
def Turn.visits : Turn → List (Instant × Visit)
  | .request now r => [(now, .request r)]
  | .reopening closed opened => [(closed, .close), (opened, .reopen)]

/-- The visits of a turn that are requests. -/
def Turn.requests : Turn → List (Instant × Visit)
  | .request now r => [(now, .request r)]
  | .reopening _ _ => []

namespace Session

/-- What a visit is answered if it is a request. -/
def response? : Session × Instant × Visit → Option Http.Response
  | (s, now, .request request) => some (s.respond now request).1
  | (_, _, .close) => none
  | (_, _, .reopen) => none

/-- What the requests of a run are answered, one after another. -/
def responses (visits : List (Instant × Visit)) : List Http.Response :=
  (({} : Session).moments visits).filterMap response?

variable {s : Session}

theorem responses_concat (visits : List (Instant × Visit)) (visit : Instant × Visit) :
    responses (visits ++ [visit]) =
      responses visits ++ [(after visits, visit)].filterMap response? := by
  rw [responses, moments_concat, List.filterMap_append, responses]

theorem whole_after (visits : List (Instant × Visit)) :
    (after visits).catalogue.biographies.Whole :=
  after_induction (P := fun db => db.biographies.Whole) Biographies.Whole.fresh
    Biographies.Whole.seeded Http.Order.Effect.whole visits

/-- A request leaves an open catalogue open. -/
theorem Serving.isOpen_request (h : s.Serving) (now : Instant) (request : Http.Request) :
    (s.visited (now, .request request)).isOpen = s.isOpen := by
  rw [visited_request h.kept, isOpen_respond]

/-- To close a catalogue and to open it again is to do nothing, if each variant has its biography. -/
theorem Serving.reopened_eq (h : s.Serving) (hopen : s.isOpen = true)
    (hwhole : s.catalogue.biographies.Whole) (closed opened : Instant) :
    (s.visited (closed, .close)).visited (opened, .reopen) = s := by
  have hkept : (s.visited (closed, .close)).kept = none := (h.visited _).kept
  have hcatalogue : (s.visited (closed, .close)).catalogue = s.catalogue := by
    rw [visited_close h.kept]
  rw [visited_reopen hkept, hcatalogue, Catalogue.seeded_eq hwhole]
  obtain ⟨db, kept, isOpen⟩ := s
  obtain rfl : kept = none := h.kept
  obtain rfl : isOpen = true := hopen
  rfl

/-- Turns leave the catalogue open, and with the same responses as their requests alone. -/
theorem after_turns (turns : List Turn) :
    (after (turns.flatMap Turn.visits)).isOpen = true ∧
      after (turns.flatMap Turn.visits) = after (turns.flatMap Turn.requests) ∧
      responses (turns.flatMap Turn.visits) = responses (turns.flatMap Turn.requests) := by
  induction turns using List.reverseRecOn with
  | nil => exact ⟨rfl, rfl, rfl⟩
  | append_singleton turns turn ih =>
    obtain ⟨hopen, hafter, hresponses⟩ := ih
    have hserving := serving_after (turns.flatMap Turn.visits)
    rw [List.flatMap_append, List.flatMap_append, List.flatMap_singleton, List.flatMap_singleton]
    cases turn with
    | request now request =>
      simp only [Turn.visits, Turn.requests]
      refine ⟨?_, ?_, ?_⟩
      · rw [after_concat, hserving.isOpen_request, hopen]
      · rw [after_concat, after_concat, hafter]
      · rw [responses_concat, responses_concat, hafter, hresponses]
    | reopening closed opened =>
      have hsame : after (turns.flatMap Turn.visits ++ [(closed, .close), (opened, .reopen)]) =
          after (turns.flatMap Turn.visits) := by
        rw [List.append_cons, after_concat, after_concat]
        exact hserving.reopened_eq hopen (whole_after _) closed opened
      have hnone : responses (turns.flatMap Turn.visits ++ [(closed, .close), (opened, .reopen)]) =
          responses (turns.flatMap Turn.visits) := by
        rw [List.append_cons, responses_concat, responses_concat]
        simp [response?]
      simp only [Turn.visits, Turn.requests, List.append_nil]
      rw [hsame, hnone]
      exact ⟨hopen, hafter, hresponses⟩

/-- **Opening the catalogue again is unseen**: wherever that is done among the requests, they are answered
as without it, and the same catalogue is left.  There each variant has one biography, and opening once more
changes no row.  In no catalogue at all does it change a biography that is there, or give a variant a
second one. -/
theorem reopening_unseen (turns : List Turn) :
    responses (turns.flatMap Turn.visits) = responses (turns.flatMap Turn.requests) ∧
      (after (turns.flatMap Turn.visits)).catalogue =
        (after (turns.flatMap Turn.requests)).catalogue ∧
      (after (turns.flatMap Turn.visits)).catalogue.seeded =
        (after (turns.flatMap Turn.visits)).catalogue ∧
      (after (turns.flatMap Turn.visits)).catalogue.biographies.variants = [.full, .short] ∧
      ∀ db : Catalogue, db.biographies.rows <+: db.seeded.biographies.rows ∧
        (∀ v content, db.biographies.get? v = some content →
          db.seeded.biographies.get? v = some content) ∧
        (db.biographies.variants.Nodup → db.seeded.biographies.variants.Nodup) := by
  obtain ⟨-, hafter, hresponses⟩ := after_turns turns
  have hwhole := whole_after (turns.flatMap Turn.visits)
  refine ⟨hresponses, congrArg catalogue hafter, Catalogue.seeded_eq hwhole, hwhole, fun db => ?_⟩
  refine ⟨db.biographies.prefix_seeded, fun v content hcontent => ?_, Biographies.nodup_seeded⟩
  have hseeded : db.seeded.biographies.get? v = some ((db.biographies.get? v).getD "") :=
    db.biographies.get?_seeded v
  rw [hseeded, hcontent, Option.getD_some]

end Session

end Recital
