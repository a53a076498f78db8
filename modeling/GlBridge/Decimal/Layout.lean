import GlBridge.Decimal.Shortest

/-!
# Decimal notation

How a decimal is laid out as text. A `Layout` says between which exponents of the
leading digit a number is written positionally; outside it is written with one
digit before the point and an exponent, whose sign always stands. A positional
number always shows a point, so that it cannot be taken for an integer.
-/

namespace GlBridge

/-- The exponents of the leading digit for which a number is written positionally. -/
structure Layout where
  least : Int
  greatest : Int

namespace Decimal

/-- The digits of a coefficient without trailing zeros, and how many zeros were dropped.
`steps` bounds the number of digits. -/
def dropZeros : (steps : Nat) → Nat → Nat × Nat
  | 0, c => (c, 0)
  | steps + 1, c =>
    if c % 10 = 0 then
      let (rest, n) := dropZeros steps (c / 10)
      (rest, n + 1)
    else (c, 0)

/-- Positional notation for `digits` with the leading one at `10 ^ leading`. -/
def positional (digits : List Char) (leading : Int) : List Char :=
  if leading < 0 then
    '0' :: '.' :: (List.replicate (-leading - 1).toNat '0' ++ digits)
  else
    let whole := leading.toNat + 1
    digits.take whole ++ List.replicate (whole - digits.length) '0' ++ '.' ::
      (if digits.length ≤ whole then ['0'] else digits.drop whole)

/-- Notation with an exponent: one digit, a point if more digits follow, and the
exponent with its sign. -/
def scientific (digits : List Char) (leading : Int) : List Char :=
  let mantissa :=
    match digits with
    | [] => ['0']
    | [d] => [d]
    | d :: more => d :: '.' :: more
  mantissa ++ 'e' :: (if leading < 0 then '-' else '+') :: Nat.toDigits 10 leading.natAbs

/-- The text of a decimal in the given layout. Zero is written positionally. -/
def write (layout : Layout) (d : Decimal) : List Char :=
  let sign := if d.negative then ['-'] else []
  if d.coefficient = 0 then sign ++ positional ['0'] 0
  else
    let (c, zeros) := dropZeros d.coefficient d.coefficient
    let digits := Nat.toDigits 10 c
    let leading := d.exponent + zeros + (digits.length - 1 : Nat)
    sign ++
      if layout.least ≤ leading ∧ leading ≤ layout.greatest then positional digits leading
      else scientific digits leading

end Decimal

end GlBridge
