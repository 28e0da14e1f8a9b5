/-!
# Percent-encoded text and form pairs

* `percentDecoded` : the bytes of a text in which `%` and two hexadecimal digits stand for a byte;
  a percent sign followed by anything else stands for itself.
* `percentText?` : those bytes as text, when they are UTF-8.
* `formPairs` : the pairs of a query: pieces between `&`, each cut at its first `=`, with a plus
  sign standing for a space.  Empty pieces are no pairs; a piece without `=` has an empty value.
-/

set_option autoImplicit false

namespace Recital.Text

/-- The value of a hexadecimal digit, of either case. -/
def hexValue? (c : Char) : Option Nat :=
  if '0' ≤ c ∧ c ≤ '9' then some (c.toNat - 48)
  else if 'a' ≤ c ∧ c ≤ 'f' then some (c.toNat - 87)
  else if 'A' ≤ c ∧ c ≤ 'F' then some (c.toNat - 55)
  else none

/-- The bytes of a percent-encoded text. -/
def percentDecoded : List Char → List UInt8
  | [] => []
  | '%' :: a :: b :: rest =>
    match hexValue? a, hexValue? b with
    | some x, some y => UInt8.ofNat (16 * x + y) :: percentDecoded rest
    | _, _ => 37 :: percentDecoded (a :: b :: rest)
  | c :: rest => (String.singleton c).toUTF8.toList ++ percentDecoded rest

/-- The text that bytes write in UTF-8. -/
def utf8Text? (bytes : List UInt8) : Option String :=
  String.fromUTF8? ⟨bytes.toArray⟩

/-- The text of a percent-encoded text, when its bytes are UTF-8. -/
def percentText? (cs : List Char) : Option String :=
  utf8Text? (percentDecoded cs)

/-- A plus sign of a form stands for a space. -/
def formDecoded? (cs : List Char) : Option String :=
  percentText? (cs.map fun c => if c = '+' then ' ' else c)

/-- The pieces of a text between the occurrences of a separator. -/
def splitAt (separator : Char) : List Char → List (List Char)
  | [] => [[]]
  | c :: cs =>
    if c = separator then [] :: splitAt separator cs
    else match splitAt separator cs with
      | [] => [[c]]
      | piece :: pieces => (c :: piece) :: pieces

/-- The name and the value of one piece of a query. -/
def formPair (piece : List Char) : List Char × List Char :=
  (piece.takeWhile (· ≠ '='), (piece.dropWhile (· ≠ '=')).drop 1)

/-- The pairs of a query, encoded as they stand. -/
def formPairs (query : List Char) : List (List Char × List Char) :=
  ((splitAt '&' query).filter (· ≠ [])).map formPair

end Recital.Text
