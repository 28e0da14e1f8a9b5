import Recital.Json.Numeral

/-!
# Text read as far as it is JSON

A `Node` is the tree of a JSON text, up to the place where the text stops being JSON.  What is wrong
there stands in the tree, so that whoever walks it from left to right meets the first fault, be it one
of form or one of meaning.

* `Failure` : a text does not have the wanted meaning, is not JSON, or ends too early.
* `Quoted` : a string token; `Quoted.text` pairs its surrogates.
* `Node` : values; `Ending` : how an array or object ends.
* `Node.skip` : walks over a value whose meaning does not matter.
* `Node.mismatch` : what is wrong with a value that stands where another type is wanted.
-/

set_option autoImplicit false

namespace Recital.Json

/-- Why a text does not decode. -/
inductive Failure where
  /-- The text is JSON of another meaning. -/
  | mismatch
  /-- The text is not JSON. -/
  | malformed
  /-- The text ends too early. -/
  | truncated
  deriving DecidableEq, Repr, Inhabited

/-- A character of a string, or an escaped code unit. -/
inductive Piece where
  | char (c : Char)
  | unit (u : Nat)
  deriving DecidableEq, Repr, Inhabited

/-- A string token: what stands between the quotes, up to the first fault. -/
structure Quoted where
  pieces : List Piece
  fault : Option Failure
  deriving DecidableEq, Repr, Inhabited

/-- Whether a code unit is the first of a surrogate pair. -/
def isHighSurrogate (u : Nat) : Bool :=
  0xD800 ≤ u && u ≤ 0xDBFF

/-- Whether a code unit is the second of a surrogate pair. -/
def isLowSurrogate (u : Nat) : Bool :=
  0xDC00 ≤ u && u ≤ 0xDFFF

/-- The character that a surrogate pair stands for. -/
def pairedChar (high low : Nat) : Char :=
  Char.ofNat (0x10000 + (high - 0xD800) * 1024 + (low - 0xDC00))

/-- The characters of a string token.  A surrogate without its partner is a fault, found where the
partner should stand. -/
def piecesText (fault : Option Failure) : List Piece → Except Failure (List Char)
  | [] => match fault with
    | none => .ok []
    | some f => .error f
  | .char c :: rest => (piecesText fault rest).map (c :: ·)
  | .unit u :: rest =>
    if isLowSurrogate u then .error .malformed
    else if isHighSurrogate u then
      match rest with
      | .unit v :: rest =>
        if isLowSurrogate v then (piecesText fault rest).map (pairedChar u v :: ·)
        else .error .malformed
      | .char _ :: _ => .error .malformed
      | [] => .error (fault.getD .malformed)
    else (piecesText fault rest).map (Char.ofNat u :: ·)

/-- The text of a string token. -/
def Quoted.text (q : Quoted) : Except Failure String :=
  (piecesText q.fault q.pieces).map String.ofList

/-- Walks over a string token; a lone surrogate is no fault then. -/
def Quoted.skip (q : Quoted) : Except Failure Unit :=
  match q.fault with
  | none => .ok ()
  | some f => .error f

/-- How an array or an object ends. -/
inductive Ending where
  /-- With its bracket. -/
  | closed
  /-- After an item, where a comma or the bracket should follow, or at the first member of an object,
  where no name stands. -/
  | cut (f : Failure)
  /-- After a comma. -/
  | comma (f : Failure)
  deriving DecidableEq, Repr, Inhabited

/-- The tree of a text, up to the place where it stops being JSON. -/
inductive Node where
  | null
  | bool (b : Bool)
  | number (n : Numeral)
  | string (s : Quoted)
  | array (items : List Node) (ending : Ending)
  | object (members : List (Quoted × Node)) (ending : Ending)
  /-- A word or number that breaks off: what is wrong if it is read, and if it is skipped. -/
  | torn (read skip : Failure)
  /-- No value at all. -/
  | broken (f : Failure)
  deriving Repr, Inhabited

/-- What is wrong at the end of an array or object, if anything. -/
def Ending.check : Ending → Except Failure Unit
  | .closed => .ok ()
  | .cut f => .error f
  | .comma f => .error f

mutual

/-- Walks over a value whose meaning does not matter. -/
def Node.skip : Node → Except Failure Unit
  | .null => .ok ()
  | .bool _ => .ok ()
  | .number _ => .ok ()
  | .string s => s.skip
  | .array items ending => match skipItems items with
    | .error f => .error f
    | .ok () => ending.check
  | .object members ending => match skipMembers members with
    | .error f => .error f
    | .ok () => ending.check
  | .torn _ f => .error f
  | .broken f => .error f

/-- Walks over the items of an array. -/
def skipItems : List Node → Except Failure Unit
  | [] => .ok ()
  | item :: items => match item.skip with
    | .error f => .error f
    | .ok () => skipItems items

/-- Walks over the members of an object. -/
def skipMembers : List (Quoted × Node) → Except Failure Unit
  | [] => .ok ()
  | (name, value) :: members => match name.skip with
    | .error f => .error f
    | .ok () => match value.skip with
      | .error f => .error f
      | .ok () => skipMembers members

end

/-- What is wrong with a value that stands where another type is wanted.  An array or object is refused
at its bracket, a scalar after it has been read. -/
def Node.mismatch : Node → Failure
  | .null => .mismatch
  | .bool _ => .mismatch
  | .number n => if n.isOutOfRange then .malformed else .mismatch
  | .string s => match s.text with
    | .ok _ => .mismatch
    | .error f => f
  | .array _ _ => .mismatch
  | .object _ _ => .mismatch
  | .torn f _ => f
  | .broken f => f

end Recital.Json
