import GlBridge.Binary.Arithmetic

/-!
# Decimal numbers and the shortest one that reads back

`Decimal.toDouble` reads a decimal as the nearest 64-bit number. `Double.shortest`
goes the other way: among the decimals that read back as a given number it takes
one with the fewest digits, of those the nearest, and of two that are equally near the
one with an even last digit.

The search needs no clever bounds. A number has two neighbours on each decimal
grid; for one digit, two digits and so on the neighbours are simply read back, and
the first grid on which one of them succeeds wins. Every double has an exact
decimal expansion, which is the answer should no grid up to seventeen digits
succeed, so the result reads back by construction.
-/

namespace GlBridge

/-- The number `± coefficient * 10 ^ exponent`. -/
structure Decimal where
  negative : Bool
  coefficient : Nat
  exponent : Int
  deriving DecidableEq, Repr

namespace Decimal

/-- The exact number. -/
def toRat (d : Decimal) : Rat :=
  (if d.negative then -1 else 1) * (d.coefficient : Rat) * (10 : Rat) ^ d.exponent

/-- A lower bound for the binary logarithm shows that the number is far above every
finite double: a power of ten is at least the same power of eight. -/
def isHuge (d : Decimal) : Bool :=
  d.coefficient != 0 && decide (0 ≤ d.exponent) && decide (2048 ≤ d.coefficient.log2 + 3 * d.exponent)

/-- An upper bound for the binary logarithm shows that the number is far below every
positive double: a negative power of ten is at most the same power of eight. -/
def isTiny (d : Decimal) : Bool :=
  d.coefficient == 0 ||
    decide (d.exponent ≤ 0) && decide (d.coefficient.log2 + 1 + 3 * d.exponent ≤ -2048)

/-- The nearest 64-bit number, ties to even; infinity beyond the largest. The two bounds
only spare the powers of ten of hopeless exponents. -/
def toDouble (d : Decimal) : Double :=
  if d.isHuge then .infinity d.negative
  else if d.isTiny then .zero d.negative
  else .round d.negative d.toRat

end Decimal

/-- The exponent of the leading decimal digit of a positive number. It is estimated
from the binary one and corrected by comparison. -/
def floorLog10 (q : Rat) : Int :=
  let guess := floorLog2 q.num.natAbs q.den * 30103 / 100000
  if q < (10 : Rat) ^ guess then guess - 1
  else if q < (10 : Rat) ^ (guess + 1) then guess
  else guess + 1

namespace Double

/-- The two integers around a positive number, the nearer one first; of two that are
equally near, the even one. -/
def neighbours (q : Rat) : Nat × Nat :=
  let below := q.floor.toNat
  let above := below + 1
  let excess := q - below
  if excess < 1 / 2 ∨ excess = 1 / 2 ∧ below % 2 = 0 then (below, above) else (above, below)

/-- Of the two neighbours of the positive number `q` on the grid of multiples of
`10 ^ exponent`, the nearer one that reads back as `x`. -/
def neighbour? (x : Double) (q : Rat) (exponent : Int) : Option Nat :=
  let (first, second) := neighbours (q / (10 : Rat) ^ exponent)
  let readsBack (c : Nat) : Bool := (Decimal.mk false c exponent).toDouble = x
  if readsBack first then some first else if readsBack second then some second else none

/-- The number `coefficient * 2 ^ exponent` written exactly with a power of ten. -/
def exactDecimal (coefficient : Nat) (exponent : Int) : Decimal :=
  if 0 ≤ exponent then ⟨false, coefficient <<< exponent.toNat, 0⟩
  else ⟨false, coefficient * Nat.pow 5 (-exponent).toNat, exponent⟩

/-- The first grid, from one digit on, with a neighbour of `q` that reads back as `x`. -/
def shortestOn? (x : Double) (q : Rat) (leading : Int) : (digits : List Nat) → Option Decimal
  | [] => none
  | n :: more =>
    match neighbour? x q (leading - n) with
    | some c => some ⟨false, c, leading - n⟩
    | none => shortestOn? x q leading more

/-- A decimal with the fewest digits that reads back as the finite number `x`, and the
nearest of those. Its sign is that of `x`. -/
def shortest (x : Double) : Decimal :=
  match x.unpack with
  | .finite negative m e =>
    if m = 0 then ⟨negative, 0, 0⟩
    else
      -- the search knows positive numbers only; the sign is put back at the end
      let q := signedPower false m e
      let positive := Binary.ofMagnitude false x.magnitude
      let d := (shortestOn? positive q (floorLog10 q) (List.range 17)).getD (exactDecimal m e)
      { d with negative }
  | _ => ⟨false, 0, 0⟩

end Double

end GlBridge
