import Recital.Proofs.Http.Tags
import Recital.Proofs.Instant.Written

/-!
# Texts of dates in requests

The record of a command about an event keeps the instant that a text names.  Here it keeps the text as well, so that
it can be said what becomes of it.

* `DateText` : a text that names an instant.  `DateText.decoder` : it is read where an instant is.
* `DatedEventCommand` : a command about an event with the text of its date.  `DatedEventCommand.maps` : it is read
  where the command is, and only there.
* `Request.Dates` : a request is to make an event, or to change the one of an id, and carries the text of a date.
-/

set_option autoImplicit false

namespace Recital

open Json

/-- A text that names an instant. -/
structure DateText where
  text : String
  instant : Instant
  reads : Instant.read? text = some instant
  deriving DecidableEq

namespace DateText

/-- The text, if it names an instant. -/
def of? (s : String) : Option DateText :=
  match h : Instant.read? s with
  | some i => some ⟨s, i, h⟩
  | none => none

/-- Decodes an instant and keeps the text that names it. -/
def decoder : Decoder DateText := fun node =>
  match Json.text node with
  | .error f => .error f
  | .ok s => match of? s with
    | some d => .ok d
    | none => .error .mismatch

theorem map_instant_of? (s : String) : (of? s).map DateText.instant = Instant.read? s := by
  unfold of?
  split
  · rename_i i h
    exact h.symm
  · rename_i h
    exact h.symm

/-- **The decoder of instants reads the same texts**, and gives the instants that they name. -/
theorem instant_eq (node : Node) : Json.instant node = (decoder node).map DateText.instant := by
  unfold Json.instant decoder
  cases Json.text node with
  | error f => rfl
  | ok s =>
    simp only [← map_instant_of? s]
    cases of? s <;> rfl

end DateText

namespace Desk

/-- The details of an event with the text of its date. -/
structure DatedDetails where
  title : String := ""
  date : Option DateText := none
  ticketLink : Option String := none
  venueId : Option Int := none
  programmeId : Option Int := none
  deriving DecidableEq

def DatedDetails.details (d : DatedDetails) : EventDetails :=
  ⟨d.title, d.date.map DateText.instant, d.ticketLink, d.venueId, d.programmeId⟩

def DatedDetails.record : Record DatedDetails where
  blank := {}
  fields := [
    .of "title" .defaulted text (fun v e => { e with title := v }) fun e => .string e.title,
    .of "date" .defaulted (optional DateText.decoder) (fun v e => { e with date := v }) fun e =>
      optionalText (e.date.map DateText.text),
    .of "ticket_link" .defaulted (optional text) (fun v e => { e with ticketLink := v }) fun e =>
      optionalText e.ticketLink,
    .of "venue_id" .defaulted (optional integer) (fun v e => { e with venueId := v }) fun e =>
      optionalInt e.venueId,
    .of "programme_id" .defaulted (optional integer) (fun v e => { e with programmeId := v }) fun e =>
      optionalInt e.programmeId]

theorem DatedDetails.maps : record.Maps details EventDetails.record where
  blank := rfl
  fields := .cons (.same fun _ _ => rfl) <|
    .cons (.of (optional_map DateText.instant_eq) fun _ _ => rfl) <| .cons (.same fun _ _ => rfl) <|
    .cons (.same fun _ _ => rfl) <| .cons (.same fun _ _ => rfl) .nil

/-- A command about an event with the text of its date. -/
structure DatedEventCommand where
  event : DatedDetails
  venue : Option (Intent Venue)
  tempId : Option String
  deriving DecidableEq

def DatedEventCommand.command (t : DatedEventCommand) : EventCommand :=
  ⟨t.event.details, t.venue, t.tempId⟩

def DatedEventCommand.record : Record DatedEventCommand where
  blank := ⟨{}, none, none⟩
  fields := [
    .of "event" .required DatedDetails.record.read (fun v t => { t with event := v }) fun t =>
      DatedDetails.record.write t.event,
    .of "venue" .defaulted (optional (Intent.record Venue.record).read)
      (fun v t => { t with venue := v }) fun t =>
        Value.ofOption (Intent.record Venue.record).write t.venue,
    .of "temp_id" .defaulted (optional text) (fun v t => { t with tempId := v }) fun t =>
      optionalText t.tempId]

/-- **Commands with dates are read as commands**, and their dates are the instants that are named. -/
theorem DatedEventCommand.maps : record.Maps command EventCommand.record where
  blank := rfl
  fields := .cons (.of DatedDetails.maps.read fun _ _ => rfl) <| .cons (.same fun _ _ => rfl) <|
    .cons (.same fun _ _ => rfl) .nil

/-- The same command with another text of its date. -/
def DatedEventCommand.redated (t : DatedEventCommand) (d : DateText) : DatedEventCommand :=
  { t with event := { t.event with date := some d } }

theorem DatedEventCommand.command_redated {t : DatedEventCommand} {d d' : DateText}
    (hdate : t.event.date = some d) (h : d'.instant = d.instant) : (t.redated d').command = t.command := by
  have hsame : t.event.date.map DateText.instant = some d'.instant := by
    rw [hdate, h]
    rfl
  unfold redated command DatedDetails.details
  rw [hsame]
  rfl

end Desk

namespace Http

open Desk

/-- The request is to make an event, or to change the one of the id, with a command that has the text of a date. -/
structure Request.Dates (request : Request) (id? : Option Int) (t : DatedEventCommand) (d : DateText) : Prop where
  writes : request.Writes .event id?
  decoded : request.decoded DatedEventCommand.record.read = .ok t
  date : t.event.date = some d

/-- What is ordered with a command about an event. -/
def EventOrder.writing (command : EventCommand) : Option Int → EventOrder
  | none => .create command
  | some id => .update id command

theorem Request.Dates.order_eq {request : Request} {id? : Option Int} {t : DatedEventCommand} {d : DateText}
    (h : request.Dates id? t d) : request.order = .ok (.event (.writing t.command id?)) := by
  have hcommand : request.decoded EventCommand.record.read = .ok t.command := by
    rw [request.decoded_map DatedEventCommand.maps.read, h.decoded]
    rfl
  rw [h.writes.order_eq]
  cases id? with
  | none =>
    rw [Request.writing, Request.collectionOrder, hcommand]
    rfl
  | some id =>
    rw [Request.writing, Request.updateOrder, hcommand]
    rfl

end Http

end Recital
