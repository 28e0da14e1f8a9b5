import Recital.Proofs.Http.Site
import Recital.Proofs.Json.Record

/-!
# Tags of operations

The records of intents keep the operation that a tag stands for.  Here they keep the tag itself, so that it can be
said what becomes of a tag that is none of the known ones.

* `TaggedIntent`, `TaggedPieceCommand`, `TaggedEventCommand` : intents and commands with the tags that are written.
  `TaggedIntent.maps`, … : they are read where the others are, and only there.
* `Request.tags` : the tags in the body of a request.  `Request.Carries` : one of them is there.
* `Order.Unsupported` : an order for which some intent has no operation.  `unsupported_of_carries` : what a tag that
  is none of the known ones leads to.
-/

set_option autoImplicit false

namespace Recital

open Json

theorem Operation.ofTag_of_unknown {tag : String} (h : tag ≠ "SELECT" ∧ tag ≠ "CREATE" ∧ tag ≠ "UPDATE") :
    Operation.ofTag tag = .unsupported := by
  unfold Operation.ofTag
  split
  · exact absurd rfl h.1
  · exact absurd rfl h.2.1
  · exact absurd rfl h.2.2
  · rfl

/-! ## Intents and commands -/

/-- An intent with its tag as it is written. -/
structure TaggedIntent (α : Type) where
  tag : String
  data : α
  tempId : Option String := none

namespace TaggedIntent

variable {α : Type}

/-- The intent, with the operation of the tag. -/
def intent (t : TaggedIntent α) : Intent α :=
  ⟨Operation.ofTag t.tag, t.data, t.tempId⟩

def record (data : Record α) : Record (TaggedIntent α) where
  blank := ⟨"", data.blank, none⟩
  fields := [
    .of "operation" .required (tagged some) (fun v t => { t with tag := v }) fun t => .string t.tag,
    .of "data" .required data.read (fun v t => { t with data := v }) fun t => data.write t.data,
    .of "temp_id" .defaulted (optional text) (fun v t => { t with tempId := v }) fun t =>
      optionalText t.tempId]

/-- **Any tag is read**, and the intent has the operation of the tag that has been read. -/
theorem maps (data : Record α) : (record data).Maps intent (Intent.record data) where
  blank := rfl
  fields := .cons (.of (tagged_map some) fun _ _ => rfl) <| .cons (.same fun _ _ => rfl) <|
    .cons ⟨rfl, rfl, fun _ => .same fun _ _ => rfl⟩ .nil

/-- Any text can stand where the tag does. -/
theorem read_written (data : Record α) (tag : String) {node : Node} {a : α} (h : data.read node = .ok a) :
    (record data).read (.object [(.ofString "operation", .string (.ofString tag)),
      (.ofString "data", node)] .closed) = .ok ⟨tag, a, none⟩ := by
  have hmembers : (record data).readMembers [] (record data).blank [(.ofString "operation",
      .string (.ofString tag)), (.ofString "data", node)] = .ok (["data", "operation"], ⟨tag, a, none⟩) := by
    simp [record, Record.readMembers, Record.field?, Field.of, tagged, named, Quoted.text_ofString, Except.map, h]
  rw [Record.read, hmembers]
  rfl

end TaggedIntent

namespace Desk

/-- A command about a piece with the tags that are written. -/
structure TaggedPieceCommand where
  piece : TaggedIntent Piece
  composer : TaggedIntent Composer

def TaggedPieceCommand.command (t : TaggedPieceCommand) : PieceCommand :=
  ⟨t.piece.intent, t.composer.intent⟩

def TaggedPieceCommand.record : Record TaggedPieceCommand where
  blank := ⟨⟨"", {}, none⟩, ⟨"", {}, none⟩⟩
  fields := [
    .of "piece" .required (TaggedIntent.record Piece.record).read (fun v t => { t with piece := v }) fun t =>
      (TaggedIntent.record Piece.record).write t.piece,
    .of "composer" .required (TaggedIntent.record Composer.record).read
      (fun v t => { t with composer := v }) fun t =>
        (TaggedIntent.record Composer.record).write t.composer]

theorem TaggedPieceCommand.maps : record.Maps command PieceCommand.record where
  blank := rfl
  fields := .cons (.of (TaggedIntent.maps Piece.record).read fun _ _ => rfl) <|
    .cons (.of (TaggedIntent.maps Composer.record).read fun _ _ => rfl) .nil

/-- A command about a venue with the tag that is written. -/
def taggedVenueCommand : Record (TaggedIntent Venue) :=
  wrapped "venue" .required ⟨"", {}, none⟩ (TaggedIntent.record Venue.record).read
    (TaggedIntent.record Venue.record).write

theorem taggedVenueCommand_maps : taggedVenueCommand.Maps TaggedIntent.intent venueCommand where
  blank := rfl
  fields := .cons (.of (TaggedIntent.maps Venue.record).read fun _ _ => rfl) .nil

/-- A command about an event with the tag that is written, if it nests an intent. -/
structure TaggedEventCommand where
  event : EventDetails
  venue : Option (TaggedIntent Venue)
  tempId : Option String

def TaggedEventCommand.command (t : TaggedEventCommand) : EventCommand :=
  ⟨t.event, t.venue.map TaggedIntent.intent, t.tempId⟩

def TaggedEventCommand.record : Record TaggedEventCommand where
  blank := ⟨{}, none, none⟩
  fields := [
    .of "event" .required EventDetails.record.read (fun v t => { t with event := v }) fun t =>
      EventDetails.record.write t.event,
    .of "venue" .defaulted (optional (TaggedIntent.record Venue.record).read)
      (fun v t => { t with venue := v }) fun t =>
        Value.ofOption (TaggedIntent.record Venue.record).write t.venue,
    .of "temp_id" .defaulted (optional text) (fun v t => { t with tempId := v }) fun t =>
      optionalText t.tempId]

theorem TaggedEventCommand.maps : record.Maps command EventCommand.record where
  blank := rfl
  fields := .cons (.same fun _ _ => rfl) <|
    .cons (.of (optional_map (TaggedIntent.maps Venue.record).read) fun _ _ => rfl) <|
    .cons (.same fun _ _ => rfl) .nil

end Desk

/-! ## Requests -/

namespace Http

open Desk

theorem Request.decoded_map {α β : Type} {σ : α → β} {decoder : Decoder α} {decoder' : Decoder β}
    (h : ∀ node, decoder' node = (decoder node).map σ) (request : Request) :
    request.decoded decoder' = (request.decoded decoder).map σ := by
  unfold Request.decoded decode
  split
  · rw [h]
    cases decoder (parse request.body).1 with
    | ok a => rfl
    | error f => cases f <;> rfl
  · rfl

/-- The tags in the body of a request that is about a kind of entities. -/
def Request.tags (request : Request) : Kind → Understood (List String)
  | .piece => (request.decoded TaggedPieceCommand.record.read).map fun t => [t.piece.tag, t.composer.tag]
  | .venue => (request.decoded taggedVenueCommand.read).map fun t => [t.tag]
  | .event => (request.decoded TaggedEventCommand.record.read).map fun t =>
      (t.venue.map TaggedIntent.tag).toList
  | .composer => .ok []
  | .programme => .ok []

/-- The request is to make an entity, or to change the one of the id, and a tag is in its body. -/
structure Request.Carries (request : Request) (tag : String) (kind : Kind) (id? : Option Int) : Prop where
  asks : match id? with
    | none => Method.ofName? request.method = some .post ∧ request.place? = some (.collection kind)
    | some id => request.Asks .put (.member kind) id
  tags : ∃ tags, request.tags kind = .ok tags ∧ tag ∈ tags

/-- An intent of the order has no operation that is supported. -/
inductive Order.Unsupported : Order → Prop where
  | createPiece {command : PieceCommand}
      (h : command.piece.operation = .unsupported ∨ command.composer.operation = .unsupported) :
      Unsupported (.piece (.create command))
  | updatePiece {id : Int} {command : PieceCommand}
      (h : command.piece.operation = .unsupported ∨ command.composer.operation = .unsupported) :
      Unsupported (.piece (.update id command))
  | createVenue {venue : Intent Venue} (h : venue.operation = .unsupported) :
      Unsupported (.venue (.create venue))
  | updateVenue {id : Int} {venue : Intent Venue} (h : venue.operation = .unsupported) :
      Unsupported (.venue (.update id venue))
  | createEvent {command : EventCommand} {venue : Intent Venue} (hvenue : command.venue = some venue)
      (h : venue.operation = .unsupported) : Unsupported (.event (.create command))
  | updateEvent {id : Int} {command : EventCommand} {venue : Intent Venue}
      (hvenue : command.venue = some venue) (h : venue.operation = .unsupported) :
      Unsupported (.event (.update id command))

variable {request : Request} {tag : String} {kind : Kind} {id? : Option Int}

theorem unsupported_of_mem_pieces {t : TaggedPieceCommand} (h : tag ∈ [t.piece.tag, t.composer.tag])
    (hunknown : Operation.ofTag tag = .unsupported) :
    t.command.piece.operation = .unsupported ∨ t.command.composer.operation = .unsupported := by
  rcases List.mem_pair.1 h with rfl | rfl
  · exact .inl hunknown
  · exact .inr hunknown

theorem unsupported_of_mem_events {t : TaggedEventCommand} (h : tag ∈ (t.venue.map TaggedIntent.tag).toList)
    (hunknown : Operation.ofTag tag = .unsupported) :
    ∃ venue, t.command.venue = some venue ∧ venue.operation = .unsupported := by
  obtain ⟨venue, hvenue, rfl⟩ := Option.map_eq_some_iff.1 (Option.mem_toList.1 h)
  refine ⟨venue.intent, ?_, hunknown⟩
  rw [TaggedEventCommand.command, hvenue]
  rfl

/-- What is ordered where an entity is to be made, or the one of an id is to be changed. -/
def Request.writing (request : Request) (kind : Kind) : Option Int → Understood Order
  | none => request.collectionOrder (Http.target request.target).2 kind .post
  | some id => request.updateOrder kind id

/-- The request is to make an entity, or to change the one of the id. -/
def Request.Writes (request : Request) (kind : Kind) : Option Int → Prop
  | none => Method.ofName? request.method = some .post ∧ request.place? = some (.collection kind)
  | some id => request.Asks .put (.member kind) id

theorem Request.Writes.order_eq (h : request.Writes kind id?) : request.order = request.writing kind id? := by
  cases id? with
  | none => exact order_eq_placeOrder h.2 h.1
  | some id =>
    obtain ⟨hmethod, p, hplace, hid⟩ := h
    rw [order_eq_placeOrder hplace hmethod, Request.placeOrder, Request.memberOrder, hid]
    rfl

theorem Request.Carries.order_eq (h : request.Carries tag kind id?) :
    request.order = request.writing kind id? := by
  have hwrites : request.Writes kind id? := by
    cases id? <;> exact h.asks
  exact hwrites.order_eq

/-- **A tag that is none of the known ones is understood**, as an order without a supported operation. -/
theorem unsupported_of_carries (h : request.Carries tag kind id?)
    (hunknown : Operation.ofTag tag = .unsupported) :
    ∃ order, request.order = .ok order ∧ order.Unsupported := by
  rw [h.order_eq]
  obtain ⟨-, tags, htags, hmem⟩ := h
  cases kind with
  | composer =>
    cases htags
    cases hmem
  | programme =>
    cases htags
    cases hmem
  | piece =>
    obtain ⟨t, ht, rfl⟩ := map_eq_ok_iff.1 htags
    have hcommand : request.decoded PieceCommand.record.read = .ok t.command := by
      rw [request.decoded_map TaggedPieceCommand.maps.read, ht]
      rfl
    have hop := unsupported_of_mem_pieces hmem hunknown
    cases id? with
    | none => exact ⟨_, by rw [Request.writing, Request.collectionOrder, hcommand]; rfl, .createPiece hop⟩
    | some id => exact ⟨_, by rw [Request.writing, Request.updateOrder, hcommand]; rfl, .updatePiece hop⟩
  | venue =>
    obtain ⟨t, ht, rfl⟩ := map_eq_ok_iff.1 htags
    have hcommand : request.decoded venueCommand.read = .ok t.intent := by
      rw [request.decoded_map taggedVenueCommand_maps.read, ht]
      rfl
    obtain rfl := List.mem_singleton.1 hmem
    have hop : t.intent.operation = .unsupported := hunknown
    cases id? with
    | none => exact ⟨_, by rw [Request.writing, Request.collectionOrder, hcommand]; rfl, .createVenue hop⟩
    | some id => exact ⟨_, by rw [Request.writing, Request.updateOrder, hcommand]; rfl, .updateVenue hop⟩
  | event =>
    obtain ⟨t, ht, rfl⟩ := map_eq_ok_iff.1 htags
    have hcommand : request.decoded EventCommand.record.read = .ok t.command := by
      rw [request.decoded_map TaggedEventCommand.maps.read, ht]
      rfl
    obtain ⟨venue, hvenue, hop⟩ := unsupported_of_mem_events hmem hunknown
    cases id? with
    | none => exact ⟨_, by rw [Request.writing, Request.collectionOrder, hcommand]; rfl, .createEvent hvenue hop⟩
    | some id => exact ⟨_, by rw [Request.writing, Request.updateOrder, hcommand]; rfl, .updateEvent hvenue hop⟩

end Http

end Recital
