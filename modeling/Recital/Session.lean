import Recital.Catalogue.Call
import Recital.Http.Service

/-!
# Sessions

A session is a catalogue with a connection to it: open or closed, with or without an open unit of work.

* `Session` : the catalogue as it is seen, and the one that a dropped unit of work returns to.
* `Action` : what can be done in a session; `Session.act` : one action after another.
* `Session.settled` : the catalogue after the unit has been dropped and the connection reopened.
-/

set_option autoImplicit false

namespace Recital

/-- A catalogue and a connection to it. -/
structure Session where
  /-- The catalogue, as the connection sees it. -/
  catalogue : Catalogue := .fresh
  /-- The catalogue that is kept if the open unit of work is dropped. -/
  kept : Option Catalogue := none
  isOpen : Bool := true
  deriving Repr, Inhabited

/-- What can be done in a session. -/
inductive Action where
  /-- A request is served. -/
  | request (request : Http.Request)
  /-- An event is created from its details. -/
  | schedule (details : EventDetails)
  | call (call : Call)
  | intervene (intervention : Intervention)
  /-- A unit of work is begun. -/
  | begin
  /-- The unit of work is kept. -/
  | commit
  /-- The unit of work is dropped. -/
  | rollback
  | close
  | reopen
  deriving Repr

/-- What an action leads to. -/
inductive Outcome where
  | response (r : Http.Response)
  | value (v : Json.Value)
  | fault (e : Fault)
  /-- A unit of work is to be ended, and none is open. -/
  | noUnit
  /-- What is asked for works outside units of work only, and one is open. -/
  | unitOpen
  deriving Repr, Inhabited

namespace Session

/-- The session without its unit of work, whose writes are lost. -/
def dropped (s : Session) : Session :=
  { s with catalogue := s.kept.getD s.catalogue, kept := none }

/-- The session after the catalogue has been opened again. -/
def reopened (s : Session) : Session :=
  { catalogue := s.dropped.catalogue.seeded }

/-- The catalogue that is found when the session is over. -/
def settled (s : Session) : Catalogue :=
  s.reopened.catalogue

/-- Runs a step, which a closed connection refuses. -/
def perform (s : Session) (step : Step Json.Value) : Outcome × Session :=
  if s.isOpen then
    match step.run s.catalogue with
    | (.ok v, db) => (.value v, { s with catalogue := db })
    | (.error e, db) => (.fault e, { s with catalogue := db })
  else (.fault .database, s)

/-- Serves a request at the moment `now`. -/
def respond (s : Session) (now : Instant) (request : Http.Request) : Http.Response × Session :=
  if s.isOpen then
    match Http.respond now request s.catalogue with
    | (r, db) => (r, { s with catalogue := db })
  else (Http.respondClosed now request, s)

/-- Does one action at the moment `now`. -/
def act (now : Instant) (s : Session) : Action → Outcome × Session
  | .request request =>
    if s.kept.isSome then (.unitOpen, s)
    else match s.respond now request with
      | (r, s) => (.response r, s)
  | .schedule details =>
    if s.kept.isSome then (.unitOpen, s)
    else s.perform (Desk.createEvent now ⟨details, none, none⟩).run.shown
  | .call call => s.perform (call.step now)
  | .intervene intervention => s.perform intervention.step
  | .begin =>
    if s.kept.isSome then (.unitOpen, s)
    else if s.isOpen then (.value .null, { s with kept := some s.catalogue })
    else (.fault .database, s)
  | .commit =>
    if s.kept.isSome then (.value .null, { s with kept := none }) else (.noUnit, s)
  | .rollback =>
    if s.kept.isSome then (.value .null, s.dropped) else (.noUnit, s)
  | .close => (.value .null, { s.dropped with isOpen := false })
  | .reopen => (.value .null, s.reopened)

end Session

end Recital
