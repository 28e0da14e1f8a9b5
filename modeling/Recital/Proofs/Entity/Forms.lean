import Recital.Proofs.Entity.Codecs

/-!
# Decoding undoes encoding

* `Layout` : the entities and the intents on them, each with its record.
* `Form` : what has a JSON form that is both read and written: these, and the names of variants, statuses, timeframes
  and operations.
* `Form.respelled` : a text decoded and encoded again.
* `Form.encoding_is_undone` : what any text is decoded as is encoded as a text that is decoded, as a whole, as the same
  value.
-/

set_option autoImplicit false

namespace Recital

open Json

/-! ## What is read and written -/

/-- The entities and the intents on them. -/
inductive Layout where
  | composer | piece | programme | venue | eventDetails | event | biography
  | composerIntent | pieceIntent | venueIntent
  deriving DecidableEq, Repr, Inhabited

namespace Layout

/-- What is laid out. -/
def Carrier : Layout → Type
  | composer => Composer
  | piece => Piece
  | programme => Programme
  | venue => Venue
  | eventDetails => EventDetails
  | event => Event
  | biography => Biography
  | composerIntent => Intent Composer
  | pieceIntent => Intent Piece
  | venueIntent => Intent Venue

/-- Its record. -/
def record : (layout : Layout) → Record layout.Carrier
  | composer => Composer.record
  | piece => Piece.record
  | programme => Programme.record
  | venue => Venue.record
  | eventDetails => EventDetails.record
  | event => Event.record
  | biography => Biography.record
  | composerIntent => Intent.record Composer.record
  | pieceIntent => Intent.record Piece.record
  | venueIntent => Intent.record Venue.record

theorem faithful : (layout : Layout) → layout.record.Faithful
  | composer => Composer.faithful
  | piece => Piece.faithful
  | programme => Programme.faithful
  | venue => Venue.faithful
  | eventDetails => EventDetails.faithful
  | event => Event.faithful
  | biography => Biography.faithful
  | composerIntent => Intent.faithful Composer.faithful
  | pieceIntent => Intent.faithful Piece.faithful
  | venueIntent => Intent.faithful Venue.faithful

end Layout

/-- What has a JSON form that is both read and written. -/
inductive Form where
  | laid (layout : Layout)
  | variant | status | timeframe | operation
  deriving DecidableEq, Repr, Inhabited

namespace Form

/-- What has the form. -/
def Carrier : Form → Type
  | laid layout => layout.Carrier
  | variant => Biography.Variant
  | status => Status
  | timeframe => Timeframe
  | operation => Operation

/-- How it is read. -/
def decoder : (form : Form) → Decoder form.Carrier
  | laid layout => layout.record.read
  | variant => Biography.Variant.decoder
  | status => Status.decoder
  | timeframe => Timeframe.decoder
  | operation => Operation.decoder

/-- How it is written. -/
def encode : (form : Form) → form.Carrier → Value
  | laid layout => layout.record.write
  | variant => fun v => .string v.name
  | status => fun s => .string s.name
  | timeframe => fun t => .string t.name
  | operation => fun op => .string op.tag

theorem codec : (form : Form) → Codec form.decoder form.encode
  | laid layout => layout.faithful.codec
  | variant => Biography.Variant.codec
  | status => Status.codec
  | timeframe => Timeframe.codec
  | operation => Operation.codec

/-- A text decoded and encoded again. -/
def respelled (form : Form) (text : String) : Except Failure String :=
  (decode form.decoder text).map fun v => (form.encode v).render

/-- **Decoding undoes encoding.**  What any text is decoded as is encoded as a text that is decoded as the same value,
with nothing left over, and to decode and encode a text twice is to do it once. -/
theorem encoding_is_undone (form : Form) {text : String} {v : form.Carrier} (h : decode form.decoder text = .ok v) :
    decodeWhole form.decoder (form.encode v).render = .ok v ∧
    parse (form.encode v).render = ((form.encode v).node, []) ∧
    form.respelled text = .ok (form.encode v).render ∧
    form.respelled (form.encode v).render = .ok (form.encode v).render := by
  have hback : decode form.decoder (form.encode v).render = .ok v := by
    rw [decode, parse_render]
    exact form.codec.undone h
  refine ⟨form.codec.decodeWhole_render h, parse_render _, ?_, ?_⟩
  · rw [respelled, h, Except.map]
  · rw [respelled, hback, Except.map]

/-- An intent of no known operation, written out of order, with a member too many and all kinds of characters. -/
def awkward : String :=
  "\x7b \"data\" : \x7b\"short_address\":\"\\u0000\\ud83d\\ude00\\\"\\\\\\/\\b\",\"more\":[1e3,\x7b\x7d]," ++
    "\"id\":-9223372036854775808\x7d,\"operation\":\"MERGE\"\x7d"

/-- What it is. -/
def awkwardIntent : Intent Venue :=
  ⟨.unsupported, { id := -9223372036854775808, shortAddress := "\x00😀\"\\/\x08" }, none⟩

theorem encoding_is_undone_awkward :
    decode (Intent.record Venue.record).read awkward = .ok awkwardIntent ∧
    ((Intent.record Venue.record).write awkwardIntent).render =
      "\x7b\"operation\":\"UNSUPPORTED\",\"data\":\x7b\"id\":-9223372036854775808,\"name\":\"\"," ++
        "\"full_address\":\"\",\"short_address\":\"\\u0000😀\\\"\\\\/\\b\"\x7d\x7d" ∧
    decodeWhole (Intent.record Venue.record).read ((Intent.record Venue.record).write awkwardIntent).render =
      .ok awkwardIntent := by
  have h : decode (Intent.record Venue.record).read awkward = .ok awkwardIntent :=
    by decide +kernel
  exact ⟨h, by decide +kernel, (encoding_is_undone (.laid .venueIntent) h).1⟩

end Form

end Recital
