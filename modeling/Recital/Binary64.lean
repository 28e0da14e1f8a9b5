/-!
# Rounding to 53 significant bits

Fractions of natural numbers, and the nearest one with at most 53 significant bits, a tie going
to the even neighbour: what binary floating point of double width keeps of a number, as long as
its exponent is in range.

* `Ratio` : a fraction; `Ratio.add`, `Ratio.sub`, `Ratio.mul`, `Ratio.div`, `Ratio.floor`.
* `halfEven` : a quotient rounded to the nearest natural number, ties to even.
* `Ratio.rounded` : a fraction rounded to 53 significant bits.
* `Ratio.exceedsRange` : whether a rounded fraction is beyond every finite number of that width.
* `Ratio.vanishes` : whether a fraction is nearer to zero than to any other number of that width.
-/

set_option autoImplicit false

namespace Recital

/-- A fraction of natural numbers. -/
structure Ratio where
  num : Nat
  den : Nat
  deriving DecidableEq, Repr

namespace Ratio

/-- A natural number as a fraction. -/
def ofNat (n : Nat) : Ratio := ⟨n, 1⟩

def add (a b : Ratio) : Ratio := ⟨a.num * b.den + b.num * a.den, a.den * b.den⟩

/-- The difference, zero if the second fraction is the greater one. -/
def sub (a b : Ratio) : Ratio := ⟨a.num * b.den - b.num * a.den, a.den * b.den⟩

def mul (a b : Ratio) : Ratio := ⟨a.num * b.num, a.den * b.den⟩

/-- The quotient by a fraction that is not zero. -/
def div (a b : Ratio) : Ratio := ⟨a.num * b.den, a.den * b.num⟩

/-- Whether the first fraction is the smaller one. -/
def less (a b : Ratio) : Bool := a.num * b.den < b.num * a.den

/-- The whole part. -/
def floor (a : Ratio) : Nat := a.num / a.den

/-- The quotient rounded to the nearest natural number, ties to the even one. -/
def halfEven (n d : Nat) : Nat :=
  let q := n / d
  let r := n % d
  if 2 * r < d ∨ (2 * r = d ∧ q % 2 = 0) then q else q + 1

/-- The fraction times `2 ^ up / 2 ^ down`. -/
def scaled (a : Ratio) (up down : Nat) : Ratio := ⟨a.num * Nat.pow 2 up, a.den * Nat.pow 2 down⟩

/-- The nearest fraction with at most 53 significant bits, ties to even.  The fraction is first
scaled by a power of two into the interval from `2 ^ 52` to `2 ^ 53`, so that the nearest natural
number has just these bits. -/
def rounded (a : Ratio) : Ratio :=
  if a.num = 0 then ⟨0, 1⟩ else
  let up := 53 + a.den.log2 - a.num.log2
  let low := a.num.log2 - (53 + a.den.log2)
  let near := a.scaled up low
  let down := if near.num < near.den * Nat.pow 2 53 then low else low + 1
  let exact := a.scaled up down
  ⟨halfEven exact.num exact.den * Nat.pow 2 down, Nat.pow 2 up⟩

/-- Whether a fraction is at least `2 ^ 1024`. -/
def exceedsRange (a : Ratio) : Bool :=
  a.den * Nat.pow 2 1024 ≤ a.num

/-- Whether a fraction is at most `2 ^ -1075`, half of the least number above zero. -/
def vanishes (a : Ratio) : Bool :=
  a.num * Nat.pow 2 1075 ≤ a.den

end Ratio

end Recital
