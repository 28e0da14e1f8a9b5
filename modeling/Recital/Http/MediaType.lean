import Recital.Text.Integer

/-!
# Media types

* `isJson` : whether a content type is `application/json`, or `application/` with the suffix `+json`,
  in any case, with any parameters that are well formed.

Parameters follow a semicolon: spaces, a name, `=`, and a token or a quoted text.  Spaces may stand
nowhere else but after a quoted text.
-/

set_option autoImplicit false

namespace Recital.MediaType

open Recital.Text

/-- The characters of a token. -/
def isTokenChar (c : Char) : Bool :=
  isDigit c || ('a' ≤ c && c ≤ 'z') || ('A' ≤ c && c ≤ 'Z') ||
    ['!', '#', '$', '%', '&', '\'', '*', '+', '-', '.', '^', '_', '\x60', '|', '~'].contains c

/-- The characters of a quoted text. -/
def isQuotedChar (c : Char) : Bool :=
  32 ≤ c.toNat && c ≠ '\x7f'

mutual

/-- Whether parameters are well formed, from the start of one. -/
def parameters : Nat → List Char → Bool
  | 0, _ => false
  | _ + 1, [] => true
  | steps + 1, ' ' :: cs => parameters steps cs
  | steps + 1, cs =>
    let name := cs.takeWhile isTokenChar
    match cs.dropWhile isTokenChar with
    | '=' :: cs => if name = [] then false else value steps cs
    | _ => false

/-- Whether the value of a parameter and what follows it are well formed. -/
def value : Nat → List Char → Bool
  | 0, _ => false
  | steps + 1, '"' :: cs => match cs with
    | [] => false
    | c :: cs =>
      if isQuotedChar c then
        match cs.dropWhile fun d => isQuotedChar d && d ≠ '"' with
        | '"' :: cs => match cs.dropWhile (· = ' ') with
          | [] => true
          | ';' :: cs => parameters steps cs
          | _ => false
        | _ => false
      else false
  | steps + 1, cs =>
    let token := cs.takeWhile isTokenChar
    match cs.dropWhile isTokenChar with
    | [] => true
    | ';' :: cs => if token = [] then false else parameters steps cs
    | _ => false

end

/-- The part of a subtype after its last plus sign, unless that is its first character. -/
def suffix? (subtype : List Char) : Option (List Char) :=
  let last := (subtype.drop 1).reverse.takeWhile (· ≠ '+')
  if '+' ∈ subtype.drop 1 then some last.reverse else none

/-- The subtype without its suffix. -/
def baseName (subtype : List Char) : List Char :=
  match suffix? subtype with
  | some suffix => subtype.take (subtype.length - suffix.length - 1)
  | none => subtype

/-- The type, the subtype and whether the parameters are well formed. -/
def split (cs : List Char) : Option (List Char × List Char × Bool) :=
  match cs.dropWhile isTokenChar with
  | '/' :: rest =>
    let subtype := rest.takeWhile isTokenChar
    match rest.dropWhile isTokenChar with
    | [] => some (cs.takeWhile isTokenChar, subtype, true)
    | ';' :: rest =>
      some (cs.takeWhile isTokenChar, subtype, subtype ≠ [] && parameters (2 * rest.length + 2) rest)
    | _ => none
  | _ => none

/-- Whether a character may stand in a header that is looked at. -/
def isHeaderChar (c : Char) : Bool :=
  (32 ≤ c.toNat && c.toNat < 127) || c = '\t'

/-- Whether a content type stands for JSON. -/
def isJson (s : String) : Bool :=
  let cs := s.toList
  cs.all isHeaderChar && match split (cs.map Char.toLower) with
    | some (kind, subtype, wellFormed) =>
      wellFormed && kind = "application".toList &&
        (baseName subtype = "json".toList || suffix? subtype = some "json".toList)
    | none => false

end Recital.MediaType
