import Recital.Binary64
import Recital.Text.Scanner

/-!
# Decimal numbers

* `Decimal` : a number without a sign: its digits, and the power of ten they are multiplied by.
* `Decimal.scan?` : digits with at most one point among them, at least one of them, and an optional
  exponent.
* `Decimal.ratio` : the number as a fraction.
-/

set_option autoImplicit false

namespace Recital.Text

/-- The number `digits * 10 ^ power`. -/
structure Decimal where
  digits : Nat
  power : Int
  deriving DecidableEq, Repr

namespace Decimal

/-- The greatest power of ten that is told from greater ones. -/
def maxPower : Nat := 10000

/-- The exponent after a number: nothing, or the letter E in either case, an optional sign and digits.
An exponent that breaks off is none. -/
def exponent? : Scanner Int
  | [] => some (0, [])
  | c :: cs =>
    if c = 'e' ∨ c = 'E' then
      let (negative, cs) := sign cs
      let digits := cs.takeWhile isDigit
      let size := min (naturalOf digits) maxPower
      if digits = [] then none
      else some (if negative then -(size : Int) else (size : Int), cs.drop digits.length)
    else some (0, c :: cs)

/-- Digits with an optional point among them, and an optional exponent. -/
def scan? : Scanner Decimal := fun cs =>
  let whole := cs.takeWhile isDigit
  let (fraction, rest) := match cs.drop whole.length with
    | '.' :: rest => (rest.takeWhile isDigit, rest.dropWhile isDigit)
    | rest => ([], rest)
  if whole ++ fraction = [] then none
  else match exponent? rest with
    | none => none
    | some (power, rest) => some (⟨naturalOf (whole ++ fraction), power - fraction.length⟩, rest)

/-- The number as a fraction. -/
def ratio (d : Decimal) : Ratio :=
  if d.power < 0 then ⟨d.digits, Nat.pow 10 d.power.natAbs⟩
  else ⟨d.digits * Nat.pow 10 d.power.natAbs, 1⟩

end Decimal

end Recital.Text
