import Mathlib.Data.List.Forall2
import Recital.Proofs.Catalogue.Calls
import Recital.Proofs.Http.Service
import Recital.Proofs.Http.Timeless
import Recital.Proofs.Session.References
import Recital.Proofs.Session.Run

/-!
# Units of work

* `readable_through` : without interventions, every catalogue is readable.
* `Session.enact` : what actions lead to, one after another.  `Outcome.Alike` : the same is shown, save the
  times of events.
* `unit_of_work` : calls in a unit lead to what they lead to outside one, a unit that is dropped leaves no
  trace, and a call that fails undoes itself only.
-/

set_option autoImplicit false

namespace Recital

/-- Whether an action is a hand on the database. -/
def Action.isIntervention : Action → Bool
  | .intervene _ => true
  | _ => false

/-- The same comes of two actions, save the times of events that are listed. -/
inductive Outcome.Alike : Outcome → Outcome → Prop where
  | same (o : Outcome) : Alike o o
  | value {v v' : Json.Value} (h : v.SameEvents v') : Alike (.value v) (.value v')

namespace Http

variable {now : Instant} {db : Catalogue}

/-- Every request leaves a readable catalogue readable. -/
theorem readable_respond (request : Request) (h : db.Readable) :
    (respond now request db).2.Readable := by
  cases horder : request.order with
  | error refusal =>
    simp only [respond, horder]
    exact h
  | ok order =>
    cases hreading : order.isReading with
    | false =>
      simp only [respond, horder]
      exact (timeless_respond now now hreading (.refl h)).2.readable
    | true =>
      have hserved : Served now request db _ _ := served_respond h
      generalize (respond now request db).1 = r at hserved
      generalize (respond now request db).2 = db' at hserved ⊢
      cases hserved with
      | refused _ => exact h
      | failed _ _ => exact h
      | done horder' heffect =>
        cases horder.symm.trans horder'
        rw [heffect.eq_of_isReading hreading]
        exact h

end Http

theorem Catalogue.Readable.seeded {db : Catalogue} (h : db.Readable) : db.seeded.Readable :=
  h

namespace Session

variable {s : Session} {now : Instant}

/-! ## Readable catalogues -/

theorem lasting_readable : Lasting Catalogue.Readable where
  request _ request _ h := Http.readable_respond request h
  schedule now _ _ h := (Desk.timeless_createEvent now now _).readable h
  call now call _ h := (timeless_call now now call).readable h
  seeded h := h.seeded

/-- Without interventions, every catalogue is readable. -/
theorem readable_through {actions : List (Instant × Action)}
    (h : ∀ action ∈ actions, action.2.isIntervention = false) :
    (through actions).catalogue.Readable := by
  refine (holds_foldl (P := Catalogue.Readable) ?_ lasting_readable ?_).seen
  · exact ⟨fun _ hrow => (nomatch hrow), fun _ hkept => nomatch hkept⟩
  · intro action haction intervention hintervention
    have hno := h action haction
    rw [hintervention] at hno
    cases hno

/-! ## Actions one after another -/

/-- What actions lead to, one after another, and the session that they leave. -/
def enact (s : Session) : List (Instant × Action) → List Outcome × Session
  | [] => ([], s)
  | (now, action) :: actions =>
    let done := s.act now action
    let rest := done.2.enact actions
    (done.1 :: rest.1, rest.2)

/-- Calls as actions. -/
def calling (calls : List (Instant × Call)) : List (Instant × Action) :=
  calls.map fun (now, call) => (now, .call call)

theorem enact_append (actions rest : List (Instant × Action)) : s.enact (actions ++ rest) =
    ((s.enact actions).1 ++ ((s.enact actions).2.enact rest).1,
      ((s.enact actions).2.enact rest).2) := by
  induction actions generalizing s with
  | nil => rfl
  | cons action actions ih =>
    rw [List.cons_append, enact, enact, ih]
    rfl

/-! ## Calls in a unit of work -/

/-- A call sees nothing of the catalogue that is kept. -/
theorem act_call_kept (s : Session) (now : Instant) (kept : Option Catalogue) (call : Call) :
    { s with kept := kept }.act now (.call call) =
      ((s.act now (.call call)).1, { (s.act now (.call call)).2 with kept := kept }) := by
  obtain ⟨db, old, isOpen⟩ := s
  simp only [act, perform]
  cases isOpen with
  | false => rfl
  | true =>
    cases hrun : (call.step now).run db with
    | mk r left => cases r <;> rfl

theorem enact_calling_kept (kept : Option Catalogue) (calls : List (Instant × Call)) :
    { s with kept := kept }.enact (calling calls) =
      ((s.enact (calling calls)).1, { (s.enact (calling calls)).2 with kept := kept }) := by
  induction calls generalizing s with
  | nil => rfl
  | cons timed calls ih =>
    obtain ⟨now, call⟩ := timed
    have hact := act_call_kept s now kept call
    simp only [calling, List.map_cons, enact]
    rw [hact]
    simp only
    exact congrArg (fun p : List Outcome × Session => ((s.act now (.call call)).1 :: p.1, p.2)) ih

/-- A unit of work is open, and keeps the catalogue that it has begun with. -/
theorem act_begin (hopen : s.isOpen = true) (hkept : s.kept = none) :
    s.act now .begin = (.value .null, { s with kept := some s.catalogue }) := by
  simp only [act, hkept, hopen, Option.isSome_none, Bool.false_eq_true, if_false, if_true]

/-- The session that calls in a unit of work leave, and what they lead to. -/
theorem enact_begin (now : Instant) (hopen : s.isOpen = true) (hkept : s.kept = none)
    (calls : List (Instant × Call)) :
    s.enact ((now, .begin) :: calling calls) =
      (.value .null :: (s.enact (calling calls)).1,
        { (s.enact (calling calls)).2 with kept := some s.catalogue }) := by
  rw [enact, act_begin hopen hkept]
  simp only
  rw [enact_calling_kept]

theorem kept_calling (hkept : s.kept = none) (calls : List (Instant × Call)) :
    (s.enact (calling calls)).2.kept = none := by
  have hsame := enact_calling_kept s.kept (s := s) calls
  rw [← hkept]
  exact congrArg (fun p : List Outcome × Session => p.2.kept) hsame

theorem isOpen_act_call (now : Instant) (call : Call) : (s.act now (.call call)).2.isOpen = s.isOpen := by
  simp only [act, perform]
  split
  · cases (call.step now).run s.catalogue with
    | mk r left => cases r <;> rfl
  · rfl

theorem isOpen_calling (calls : List (Instant × Call)) :
    (s.enact (calling calls)).2.isOpen = s.isOpen := by
  induction calls generalizing s with
  | nil => rfl
  | cons timed calls ih => exact ih.trans (isOpen_act_call timed.1 timed.2)

/-! ## Calls at other moments -/

/-- A call leads to the same at any two moments, save the times of events. -/
theorem act_call_alike (now now' : Instant) {s' : Session} (hopen : s.isOpen = s'.isOpen)
    (h : s.catalogue.Alike s'.catalogue) (call : Call) :
    (s.act now (.call call)).1.Alike (s'.act now' (.call call)).1 ∧
      (s.act now (.call call)).2.catalogue.Alike (s'.act now' (.call call)).2.catalogue := by
  obtain ⟨hends, hleft⟩ := timeless_call now now' call _ _ h
  simp only [act, perform]
  rw [← hopen]
  split
  · generalize (call.step now).run s.catalogue = p at *
    generalize (call.step now').run s'.catalogue = p' at *
    obtain ⟨r, left⟩ := p
    obtain ⟨r', left'⟩ := p'
    cases hends with
    | value hvalue => exact ⟨.value hvalue, hleft⟩
    | fault e => exact ⟨.same _, hleft⟩
  · exact ⟨.same _, h⟩

theorem enact_calling_alike {s' : Session} {calls calls' : List (Instant × Call)}
    (hopen : s.isOpen = s'.isOpen) (h : s.catalogue.Alike s'.catalogue)
    (hcalls : calls.map Prod.snd = calls'.map Prod.snd) :
    List.Forall₂ Outcome.Alike (s.enact (calling calls)).1 (s'.enact (calling calls')).1 ∧
      (s.enact (calling calls)).2.catalogue.Alike (s'.enact (calling calls')).2.catalogue := by
  induction calls generalizing s s' calls' with
  | nil =>
    obtain rfl := List.map_eq_nil_iff.1 hcalls.symm
    exact ⟨.nil, h⟩
  | cons timed calls ih =>
    obtain ⟨⟨now', call⟩, calls', rfl, hcall, hrest⟩ := List.map_eq_cons_iff.1 hcalls.symm
    obtain ⟨now, call'⟩ := timed
    obtain rfl : call = call' := hcall
    obtain ⟨hfirst, hleft⟩ := act_call_alike now now' hopen h call
    have hopen' := (isOpen_act_call now call).trans
      (hopen.trans (isOpen_act_call now' call).symm)
    obtain ⟨houtcomes, hlast⟩ := ih hopen' hleft hrest.symm
    exact ⟨.cons hfirst houtcomes, hlast⟩

/-! ## Units of work -/

/-- **Units of work**, on whatever catalogue requests and calls lead to.  A unit that is dropped leaves the
session as if it had never begun.  In a unit that is kept, calls lead to what they lead to one by one outside
it, and at other moments to the same save the times of events.  A call that fails in a unit undoes no other
call, and of its own writes leaves at most the slots that it has replaced. -/
theorem unit_of_work (actions : List (Instant × Action))
    (hactions : ∀ action ∈ actions, action.2.isIntervention = false)
    (hopen : (through actions).isOpen = true) (hkept : (through actions).kept = none)
    (begun ended : Instant) (calls : List (Instant × Call)) :
    ((through actions).enact ((begun, .begin) :: calling calls ++ [(ended, .rollback)])).2 =
        through actions ∧
    (through actions).enact ((begun, .begin) :: calling calls ++ [(ended, .commit)]) =
      (.value .null :: ((through actions).enact (calling calls)).1 ++ [.value .null],
        ((through actions).enact (calling calls)).2) ∧
    (∀ calls' : List (Instant × Call), calls'.map Prod.snd = calls.map Prod.snd →
      List.Forall₂ Outcome.Alike ((through actions).enact (calling calls)).1
        ((through actions).enact (calling calls')).1 ∧
      ((through actions).enact (calling calls)).2.catalogue.untimed =
        ((through actions).enact (calling calls')).2.catalogue.untimed) ∧
    ∀ (now : Instant) (call : Call) (e : Fault) (inside : Session),
      ((through actions).enact ((begun, .begin) :: calling calls)).2 = inside →
      (inside.act now (.call call)).1 = .fault e →
      call.Torn inside.catalogue (inside.act now (.call call)).2.catalogue ∧
        (inside.act now (.call call)).2.kept = some (through actions).catalogue := by
  have hread := readable_through hactions
  generalize through actions = s at *
  have hbegin := enact_begin begun hopen hkept calls
  have hnone := kept_calling hkept calls
  have hstays := (isOpen_calling (s := s) calls).trans hopen
  refine ⟨?_, ?_, ?_, ?_⟩
  · rw [enact_append, hbegin]
    obtain ⟨db, kept, isOpen⟩ := s
    obtain rfl : kept = none := hkept
    exact congrArg (Session.mk db none) (hstays.trans hopen.symm)
  · rw [enact_append, hbegin]
    generalize s.enact (calling calls) = done at *
    obtain ⟨outcomes, ⟨db, kept, isOpen⟩⟩ := done
    obtain rfl : kept = none := hnone
    rfl
  · intro calls' hcalls
    obtain ⟨houtcomes, hleft⟩ := enact_calling_alike rfl (.refl hread) hcalls.symm
    exact ⟨houtcomes, hleft.untimed_eq⟩
  · rintro now call e inside rfl hfails
    have hinside : (s.enact (calling calls)).2.catalogue.Readable :=
      (enact_calling_alike rfl (.refl hread) rfl).2.readable'
    rw [hbegin] at hfails ⊢
    simp only [act, perform, hstays, if_true] at hfails ⊢
    cases hrun : (call.step now).run (s.enact (calling calls)).2.catalogue with
    | mk r left =>
      rw [hrun] at hfails
      cases r with
      | ok v => cases hfails
      | error f => exact ⟨torn_of_error hinside hrun, rfl⟩

/-- A request and calls that make a programme of one piece. -/
def opening : List (Instant × Action) :=
  (.spring, .request (.ofJson "POST" "/programmes" "\x7b\"title\":\"P\"\x7d")) ::
    calling [(.spring, .composer (.create ⟨0, "A", "B"⟩)), (.spring, .piece (.create ⟨0, "T", 1⟩)),
      (.spring, .replacePieces 1 [1])]

/-- Calls of which the first fails, after it has removed the slots of the programme. -/
def rearranging : List (Instant × Call) :=
  [(.spring, .replacePieces 1 [2]), (.spring, .putBiography ⟨"C", .full⟩)]

theorem unit_of_work_rearranging :
    (∀ action ∈ opening, action.2.isIntervention = false) ∧ (through opening).isOpen = true ∧
      (through opening).kept = none ∧ (through opening).catalogue.slots = [⟨1, 1, 1⟩] ∧
      ((through opening).enact
        ((.spring, .begin) :: calling rearranging ++ [(.spring, .rollback)])).2 = through opening ∧
      ((through opening).enact
        ((.spring, .begin) :: calling rearranging ++ [(.spring, .commit)])).2.catalogue =
        { (through opening).catalogue with
          slots := []
          biographies := ⟨[⟨"C", .full⟩, ⟨"", .short⟩]⟩ } := by
  have hactions : ∀ action ∈ opening, action.2.isIntervention = false := by decide
  have hreached : (through opening).isOpen = true ∧ (through opening).kept = none ∧
      (through opening).catalogue.slots = [⟨1, 1, 1⟩] ∧
      ((through opening).enact (calling rearranging)).2.catalogue =
        { (through opening).catalogue with
          slots := []
          biographies := ⟨[⟨"C", .full⟩, ⟨"", .short⟩]⟩ } := by decide +kernel
  obtain ⟨hopen, hkept, hslots, hcalls⟩ := hreached
  obtain ⟨hdropped, hcommitted, -, -⟩ :=
    unit_of_work opening hactions hopen hkept .spring .spring rearranging
  refine ⟨hactions, hopen, hkept, hslots, hdropped, ?_⟩
  rw [hcommitted]
  dsimp only
  rw [hcalls]

end Session

end Recital
