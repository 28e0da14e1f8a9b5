import Recital.Entity.Basic
import Recital.Instant.Format
import Recital.Intent.Basic
import Recital.Json.Record

/-!
# JSON forms of the entities

One `Record` per entity gives both its decoder and its encoder.  The entities that an editor writes may
lack any field; an event as it is shown needs its id, title and status.

* `Composer.record`, `Piece.record`, `Programme.record`, `Venue.record`, `EventDetails.record`,
  `Event.record`, `Biography.record`, `Intent.record` : the records.
* `Status.decoder`, `Timeframe.decoder`, `Biography.Variant.decoder`, `Operation.decoder` : names.
* `Showable` : the values that answers show.
-/

set_option autoImplicit false

namespace Recital

open Json

/-- An integer that may be null. -/
def optionalInt (n : Option Int) : Value :=
  Value.ofOption Value.int n

/-- A text that may be null. -/
def optionalText (s : Option String) : Value :=
  Value.ofOption Value.string s

/-- A date that may be null. -/
def optionalDate (i : Option Instant) : Value :=
  Value.ofOption (fun i => Value.string i.canonical) i

/-- Decodes the name of a status. -/
def Status.decoder : Decoder Status := tagged Status.ofName?

/-- Decodes the name of a timeframe. -/
def Timeframe.decoder : Decoder Timeframe := tagged Timeframe.ofName?

/-- Decodes the name of a variant. -/
def Biography.Variant.decoder : Decoder Biography.Variant := tagged Biography.Variant.ofName?

/-- Decodes the tag of an operation: any name is one. -/
def Operation.decoder : Decoder Operation := tagged fun s => some (Operation.ofTag s)

def Composer.record : Record Composer where
  blank := {}
  fields := [
    .of "id" .defaulted integer (fun v c => { c with id := v }) fun c => .int c.id,
    .of "full_name" .defaulted text (fun v c => { c with fullName := v }) fun c => .string c.fullName,
    .of "short_name" .defaulted text (fun v c => { c with shortName := v }) fun c =>
      .string c.shortName]

def Piece.record : Record Piece where
  blank := {}
  fields := [
    .of "id" .defaulted integer (fun v p => { p with id := v }) fun p => .int p.id,
    .of "title" .defaulted text (fun v p => { p with title := v }) fun p => .string p.title,
    .of "composer_id" .defaulted integer (fun v p => { p with composerId := v }) fun p =>
      .int p.composerId]

def Programme.record : Record Programme where
  blank := {}
  fields := [
    .of "id" .defaulted integer (fun v p => { p with id := v }) fun p => .int p.id,
    .of "title" .defaulted text (fun v p => { p with title := v }) fun p => .string p.title]

def Venue.record : Record Venue where
  blank := {}
  fields := [
    .of "id" .defaulted integer (fun v p => { p with id := v }) fun p => .int p.id,
    .of "name" .defaulted text (fun v p => { p with name := v }) fun p => .string p.name,
    .of "full_address" .defaulted text (fun v p => { p with fullAddress := v }) fun p =>
      .string p.fullAddress,
    .of "short_address" .defaulted text (fun v p => { p with shortAddress := v }) fun p =>
      .string p.shortAddress]

def EventDetails.record : Record EventDetails where
  blank := {}
  fields := [
    .of "title" .defaulted text (fun v e => { e with title := v }) fun e => .string e.title,
    .of "date" .defaulted (optional instant) (fun v e => { e with date := v }) fun e =>
      optionalDate e.date,
    .of "ticket_link" .defaulted (optional text) (fun v e => { e with ticketLink := v }) fun e =>
      optionalText e.ticketLink,
    .of "venue_id" .defaulted (optional integer) (fun v e => { e with venueId := v }) fun e =>
      optionalInt e.venueId,
    .of "programme_id" .defaulted (optional integer) (fun v e => { e with programmeId := v }) fun e =>
      optionalInt e.programmeId]

def Event.record : Record Event where
  blank := {}
  fields := [
    .of "id" .required integer (fun v e => { e with id := v }) fun e => .int e.id,
    .of "title" .required text (fun v e => { e with title := v }) fun e => .string e.title,
    .of "date" .nullable (optional instant) (fun v e => { e with date := v }) fun e =>
      optionalDate e.date,
    .of "ticket_link" .nullable (optional text) (fun v e => { e with ticketLink := v }) fun e =>
      optionalText e.ticketLink,
    .of "venue_id" .nullable (optional integer) (fun v e => { e with venueId := v }) fun e =>
      optionalInt e.venueId,
    .of "programme_id" .nullable (optional integer) (fun v e => { e with programmeId := v }) fun e =>
      optionalInt e.programmeId,
    .of "status" .required Status.decoder (fun v e => { e with status := v }) fun e =>
      .string e.status.name,
    .of "notes" .nullable (optional text) (fun v e => { e with notes := v }) fun e =>
      optionalText e.notes]

def Biography.record : Record Biography where
  blank := ⟨"", .full⟩
  fields := [
    .of "content" .required text (fun v b => { b with content := v }) fun b => .string b.content,
    .of "variant" .required Biography.Variant.decoder (fun v b => { b with variant := v }) fun b =>
      .string b.variant.name]

/-- The mark of an intent. -/
def markField {α : Type} : Json.Field (Intent α) where
  name := "temp_id"
  presence := .defaulted
  read node := (optional text node).map fun v i => { i with tempId := v }
  write i := i.tempId.map Value.string

/-- The record of an intent on an entity.  Its mark has no member when there is none. -/
def Intent.record {α : Type} (data : Record α) : Record (Intent α) where
  blank := ⟨.unsupported, data.blank, none⟩
  fields := [
    .of "operation" .required Operation.decoder (fun v i => { i with operation := v }) fun i =>
      .string i.operation.tag,
    .of "data" .required data.read (fun v i => { i with data := v }) fun i => data.write i.data,
    markField]

/-- The values that answers show. -/
class Showable (α : Type) where
  encode : α → Value

open Showable

instance : Showable Unit := ⟨fun _ => .null⟩
instance : Showable Bool := ⟨Value.bool⟩
instance : Showable Nat := ⟨fun n => .int n⟩
instance : Showable String := ⟨Value.string⟩
instance : Showable Instant := ⟨fun i => .string i.canonical⟩
instance : Showable Status := ⟨fun s => .string s.name⟩
instance : Showable Timeframe := ⟨fun t => .string t.name⟩
instance : Showable Biography.Variant := ⟨fun v => .string v.name⟩
instance : Showable Operation := ⟨fun op => .string op.tag⟩
instance : Showable Composer := ⟨Composer.record.write⟩
instance : Showable Piece := ⟨Piece.record.write⟩
instance : Showable Programme := ⟨Programme.record.write⟩
instance : Showable Venue := ⟨Venue.record.write⟩
instance : Showable EventDetails := ⟨EventDetails.record.write⟩
instance : Showable Event := ⟨Event.record.write⟩
instance : Showable Biography := ⟨Biography.record.write⟩

instance {α : Type} [Showable α] : Showable (List α) := ⟨fun as => .array (as.map encode)⟩

end Recital
