import Recital.Instant.Reading
import Recital.Json.Reader
import Recital.Json.Value

/-!
# Decoding trees, and records described by their fields

* `Decoder` : reads a value from a tree, left to right, up to the first failure.
* `integer`, `text`, `instant`, `optional`, `listOf`, `tagged` : decoders of the kinds of fields.
* `Record` : a record type described by its fields.  One description gives the decoder of its two
  written forms, an object of members and an array of fields in order, and the encoder of the first.
* `decode`, `decodeWhole` : decoders run on a text, which must end after the value in the second case.
-/

set_option autoImplicit false

namespace Recital.Json

/-- Reads a value from a tree. -/
abbrev Decoder (α : Type) := Node → Except Failure α

/-- A 64-bit integer.  A numeral without these limits is of another meaning, or no number at all if it
is beyond every finite number. -/
def integer : Decoder Int
  | .number n => match n.integer? with
    | some i => if Text.inInt64 i then .ok i else .error (Node.number n).mismatch
    | none => .error (Node.number n).mismatch
  | node => .error node.mismatch

/-- A text. -/
def text : Decoder String
  | .string s => s.text
  | node => .error node.mismatch

/-- An instant in the relaxed form. -/
def instant : Decoder Instant := fun node =>
  match text node with
  | .error f => .error f
  | .ok s => match Instant.read? s with
    | some i => .ok i
    | none => .error .mismatch

/-- A value, or null. -/
def optional {α : Type} (decoder : Decoder α) : Decoder (Option α)
  | .null => .ok none
  | node => (decoder node).map some

/-- The items of an array, each read in turn. -/
def items {α : Type} (decoder : Decoder α) : List Node → Except Failure (List α)
  | [] => .ok []
  | node :: nodes => match decoder node with
    | .error f => .error f
    | .ok a => (items decoder nodes).map (a :: ·)

/-- A list of values. -/
def listOf {α : Type} (decoder : Decoder α) : Decoder (List α)
  | .array nodes ending => match items decoder nodes with
    | .error f => .error f
    | .ok as => ending.check.map fun _ => as
  | node => .error node.mismatch

/-- A name that stands for a value. -/
def named {α : Type} (lookup : String → Option α) (q : Quoted) : Except Failure α :=
  match q.text with
  | .error f => .error f
  | .ok s => match lookup s with
    | some a => .ok a
    | none => .error .mismatch

/-- One of a set of names: as a string, or as an object whose one member has that name and the value
null.  Anything else is refused at its first character, and an object at the first character of what
stands there in place of a name. -/
def tagged {α : Type} (lookup : String → Option α) : Decoder α
  | .string q => named lookup q
  | .object [] .closed => .error .malformed
  | .object [] (.cut f) => .error f
  | .object [] (.comma f) => .error f
  | .object ((q, value) :: members) ending => match named lookup q with
    | .error f => .error f
    | .ok a => match value with
      | .null => match members, ending with
        | [], .closed => .ok a
        | [], .cut f => .error f
        | _, _ => .error .malformed
      | value => .error value.mismatch
  | .broken f => .error f
  | _ => .error .malformed

/-- What a missing field means. -/
inductive Presence where
  /-- The record is refused. -/
  | required
  /-- Nothing in an object; in an array the record is refused. -/
  | nullable
  /-- The blank value of the field, in both forms. -/
  | defaulted
  deriving DecidableEq, Repr, Inhabited

/-- A field of a record: how a value of it is read into the record and written from it.  A field that
writes nothing has no member. -/
structure Field (R : Type) where
  name : String
  presence : Presence
  read : Node → Except Failure (R → R)
  write : R → Option Value

/-- A field that is always written. -/
def Field.of {R α : Type} (name : String) (presence : Presence) (decoder : Decoder α)
    (set : α → R → R) (get : R → Value) : Field R :=
  { name, presence, read := fun node => (decoder node).map set, write := fun r => some (get r) }

/-- A record type: its blank value and its fields in order. -/
structure Record (R : Type) where
  blank : R
  fields : List (Field R)

namespace Record

variable {R : Type}

/-- The field of a name. -/
def field? (record : Record R) (name : String) : Option (Field R) :=
  record.fields.find? fun f => f.name = name

/-- Reads the members of an object into `r`, where `seen` are the names of the fields read so far.  A
member of another name is skipped, a second member of a name refused. -/
def readMembers (record : Record R) :
    List String → R → List (Quoted × Node) → Except Failure (List String × R)
  | seen, r, [] => .ok (seen, r)
  | seen, r, (q, node) :: members => match q.text with
    | .error f => .error f
    | .ok name => match record.field? name with
      | none => match node.skip with
        | .error f => .error f
        | .ok () => readMembers record seen r members
      | some field =>
        if seen.contains name then .error .mismatch
        else match field.read node with
          | .error f => .error f
          | .ok set => readMembers record (name :: seen) (set r) members

/-- Whether no required field is missing. -/
def isComplete (record : Record R) (seen : List String) : Bool :=
  record.fields.all fun f => f.presence ≠ .required || seen.contains f.name

/-- Reads the items of an array into the fields in order.  An item too many is refused before it is
looked at. -/
def readItems (ending : Ending) : List (Field R) → R → List Node → Except Failure R
  | [], r, [] => match ending with
    | .closed => .ok r
    | .cut f => .error f
    | _ => .error .malformed
  | [], _, _ :: _ => .error .malformed
  | field :: fields, r, [] => match ending.check with
    | .error f => .error f
    | .ok () => if field.presence = .defaulted then readItems ending fields r [] else .error .mismatch
  | field :: fields, r, node :: nodes => match field.read node with
    | .error f => .error f
    | .ok set => readItems ending fields (set r) nodes

/-- A record, written as an object or as an array. -/
def read (record : Record R) : Decoder R
  | .object members ending => match record.readMembers [] record.blank members with
    | .error f => .error f
    | .ok (seen, r) => match ending.check with
      | .error f => .error f
      | .ok () => if record.isComplete seen then .ok r else .error .mismatch
  | .array nodes ending => readItems ending record.fields record.blank nodes
  | node => .error node.mismatch

/-- The object of a record: a member for each field that writes one, in order. -/
def write (record : Record R) (r : R) : Value :=
  .object (record.fields.filterMap fun f => (f.write r).map fun v => (f.name, v))

end Record

/-- The value that a text starts with; what follows it does not matter. -/
def decode {α : Type} (decoder : Decoder α) (s : String) : Except Failure α :=
  decoder (parse s).1

/-- The value that a whole text writes. -/
def decodeWhole {α : Type} (decoder : Decoder α) (s : String) : Except Failure α :=
  let (node, rest) := parse s
  match decoder node with
  | .error f => .error f
  | .ok a => if rest.all isGap then .ok a else .error .malformed

end Recital.Json
