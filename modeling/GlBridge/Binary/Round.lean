import GlBridge.Binary.Format

/-!
# Rounding an exact number to a word

Every operation of `GlBridge.Binary.Arithmetic` computes its result exactly and then calls
`Binary.round` once, so this module is the only place where precision is lost.

`Format.roundMagnitude` finds the spacing that the format has around the number,
takes the nearest multiple of it (`nearestQuotient`, a tie goes to the even
neighbour) and packs coefficient and spacing into a word. The packing is a plain
sum: a coefficient that rounds up to the next power of two carries into the
exponent field by itself, and a word at or above `infinityMagnitude` is capped there.
-/

namespace GlBridge

/-- The integer nearest to `num / den`; a tie goes to the even neighbour. -/
def nearestQuotient (num den : Nat) : Nat :=
  let q := num / den
  let r := num % den
  if 2 * r < den then q else if den < 2 * r then q + 1 else q + q % 2

/-- The floor of the binary logarithm of `num / den`, for positive arguments. -/
def floorLog2 (num den : Nat) : Int :=
  let guess : Int := (num.log2 : Int) - den.log2
  -- the guess is right or one too high
  let reaches : Bool :=
    if 0 ≤ guess then den <<< guess.toNat ≤ num else den ≤ num <<< (-guess).toNat
  if reaches then guess else guess - 1

/-- The nearest multiple of `2 ^ exponent` to `num / den`, as a count of that unit. -/
def nearestMultiple (num den : Nat) (exponent : Int) : Nat :=
  if 0 ≤ exponent then nearestQuotient num (den <<< exponent.toNat)
  else nearestQuotient (num <<< (-exponent).toNat) den

namespace Format

/-- The spacing of the format's numbers around `num / den`, as an exponent of two. -/
def spacing (f : Format) (num den : Nat) : Int :=
  max f.minExponent (floorLog2 num den - f.fractionBits)

/-- The bits below the sign of the number nearest to `num / den`, ties to even,
infinity when it lies beyond the largest finite number. -/
def roundMagnitude (f : Format) (num den : Nat) : Nat :=
  if num = 0 then 0
  else
    let exponent := f.spacing num den
    let coefficient := nearestMultiple num den exponent
    -- a normal coefficient brings its leading bit along, which adds one to the exponent field
    min f.infinityMagnitude
      (coefficient + (exponent - f.minExponent).toNat <<< f.fractionBits)

end Format

namespace Binary

variable {f : Format}

/-- The word nearest to `q`, ties to even. An exact zero takes the sign `zeroSign`; a
number that rounds to zero keeps its own. -/
def round (zeroSign : Bool) (q : Rat) : Binary f :=
  if q = 0 then zero zeroSign
  else ofMagnitude (q < 0) (f.roundMagnitude q.num.natAbs q.den)

/-- The word nearest to an integer. -/
def ofInt (n : Int) : Binary f := round false (n : Rat)

instance instOfNat (n : Nat) : OfNat (Binary f) n := ⟨round false (n : Rat)⟩

end Binary

end GlBridge
