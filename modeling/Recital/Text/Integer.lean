/-!
# Decimal integers of bounded size

* `digitValue?` : the value of a decimal digit.
* `naturalOf` : the number that a run of digits writes.
* `integer?` : an optional sign followed by at least one digit, as a number.  Leading zeros and
  both signs are accepted, so `+1`, `01` and `-0` are numbers.
* `integer64?` : the same, refused outside the 64-bit range.
-/

set_option autoImplicit false

namespace Recital.Text

/-- The value of a decimal digit. -/
def digitValue? (c : Char) : Option Nat :=
  if '0' ≤ c ∧ c ≤ '9' then some (c.toNat - 48) else none

/-- Whether a character is a decimal digit. -/
def isDigit (c : Char) : Bool :=
  (digitValue? c).isSome

/-- The number that digits write, read after the number `acc`. -/
def naturalAfter (acc : Nat) : List Char → Nat
  | [] => acc
  | c :: cs => naturalAfter (acc * 10 + (digitValue? c).getD 0) cs

/-- The number that a run of digits writes. -/
def naturalOf (cs : List Char) : Nat :=
  naturalAfter 0 cs

/-- A run of at least one digit, as a number. -/
def natural? (cs : List Char) : Option Nat :=
  if cs ≠ [] ∧ cs.all isDigit then some (naturalOf cs) else none

/-- An optional sign and at least one digit, as a number. -/
def integer? : List Char → Option Int
  | '+' :: cs => (natural? cs).map Int.ofNat
  | '-' :: cs => (natural? cs).map fun n => -Int.ofNat n
  | cs => (natural? cs).map Int.ofNat

/-- The least 64-bit integer. -/
def minInt64 : Int := -9223372036854775808

/-- The greatest 64-bit integer. -/
def maxInt64 : Int := 9223372036854775807

/-- Whether a number is a 64-bit integer. -/
def inInt64 (n : Int) : Bool :=
  minInt64 ≤ n && n ≤ maxInt64

/-- A decimal 64-bit integer. -/
def integer64? (cs : List Char) : Option Int :=
  (integer? cs).filter inInt64

/-- The decimal digits of a number, padded on the left with zeros to at least `width`. -/
def padded (width n : Nat) : List Char :=
  let ds := Nat.toDigits 10 n
  List.replicate (width - ds.length) '0' ++ ds

end Recital.Text
