/-!
# Binary interchange formats

A floating-point number is kept as the word that stores it: `Binary f` is a bit
pattern of the width that the format `f` asks for. Keeping the pattern, rather
than the number it stands for, is what makes signed zeros and the payload of a
NaN survive being copied, and a matrix upload is exactly such a copy.

* `Format` gives the two field widths; `Format.single` and `Format.double` are the
  formats in use, with `Single` and `Double` for their words.
* `Binary.unpack` reads a word as a NaN, an infinity or a signed integer
  coefficient times a power of two, and `Binary.toRat?` as an exact rational.
-/

namespace GlBridge

/-- A binary interchange format: a sign bit, then an exponent field, then a
fraction field. -/
structure Format where
  /-- width of the exponent field -/
  exponentBits : Nat
  /-- width of the fraction field -/
  fractionBits : Nat
  deriving DecidableEq, Repr

namespace Format

/-- The 32-bit format. -/
abbrev single : Format := ⟨8, 23⟩

/-- The 64-bit format. -/
abbrev double : Format := ⟨11, 52⟩

/-- Number of bits of a word. -/
@[reducible] def width (f : Format) : Nat := 1 + (f.exponentBits + f.fractionBits)

/-- Number of bits below the sign. -/
@[reducible] def magnitudeBits (f : Format) : Nat := f.exponentBits + f.fractionBits

/-- Exponent of the smallest positive number, which is also the spacing of all
subnormal numbers: they are the integer multiples of `2 ^ minExponent`. -/
def minExponent (f : Format) : Int :=
  2 - (1 <<< (f.exponentBits - 1) : Nat) - f.fractionBits

/-- The word below the sign of an infinity: exponent field all ones, fraction
zero. Every finite magnitude is a smaller word and every NaN a larger one. -/
def infinityMagnitude (f : Format) : Nat :=
  ((1 <<< f.exponentBits) - 1) <<< f.fractionBits

/-- The fraction bit that marks a NaN as quiet. -/
def quietBit (f : Format) : Nat := 1 <<< (f.fractionBits - 1)

end Format

/-- A word of the format `f`. -/
@[ext] structure Binary (f : Format) where
  /-- the stored pattern, sign bit first -/
  bits : BitVec f.width
  deriving DecidableEq

/-- A 32-bit floating-point word. -/
abbrev Single := Binary Format.single

/-- A 64-bit floating-point word. -/
abbrev Double := Binary Format.double

/-- What a word stands for. -/
inductive Unpacked where
  | nan
  | infinite (negative : Bool)
  /-- the number `± coefficient * 2 ^ exponent` -/
  | finite (negative : Bool) (coefficient : Nat) (exponent : Int)
  deriving DecidableEq, Repr

namespace Binary

variable {f : Format}

/-- The word with the given sign and the given bits below the sign. -/
def ofMagnitude (negative : Bool) (magnitude : Nat) : Binary f :=
  ⟨BitVec.ofNat f.width (magnitude + if negative then 1 <<< f.magnitudeBits else 0)⟩

/-- The sign bit. It is also set in a negative zero and may be set in a NaN. -/
def isNegative (x : Binary f) : Bool := 1 <<< f.magnitudeBits ≤ x.bits.toNat

/-- The bits below the sign, as a number. -/
def magnitude (x : Binary f) : Nat := x.bits.toNat % (1 <<< f.magnitudeBits)

/-- The word is no number. -/
def isNaN (x : Binary f) : Bool := f.infinityMagnitude < x.magnitude

/-- The word is an infinity of either sign. -/
def isInfinite (x : Binary f) : Bool := x.magnitude == f.infinityMagnitude

/-- The word is a number: neither a NaN nor an infinity. -/
def isFinite (x : Binary f) : Bool := x.magnitude < f.infinityMagnitude

/-- The word is a zero of either sign. -/
def isZero (x : Binary f) : Bool := x.magnitude == 0

/-- Zero with the given sign. -/
def zero (negative : Bool) : Binary f := ofMagnitude negative 0

/-- The infinity with the given sign. -/
def infinity (negative : Bool) : Binary f := ofMagnitude negative f.infinityMagnitude

/-- The NaN that an operation without a meaningful result delivers: quiet, no
payload, sign bit set. -/
def invalid : Binary f := ofMagnitude true (f.infinityMagnitude + f.quietBit)

/-- A NaN made quiet; its sign and the rest of its payload stay. -/
def quiet (x : Binary f) : Binary f :=
  ofMagnitude x.isNegative (x.magnitude ||| f.quietBit)

/-- Reads a word: an exponent field of zero marks a subnormal number, whose
coefficient is the fraction alone, and any other adds the leading one. -/
def unpack (x : Binary f) : Unpacked :=
  if x.isNaN then .nan
  else if x.isInfinite then .infinite x.isNegative
  else
    let field := x.magnitude >>> f.fractionBits
    let fraction := x.magnitude % (1 <<< f.fractionBits)
    if field = 0 then .finite x.isNegative fraction f.minExponent
    else .finite x.isNegative ((1 <<< f.fractionBits) + fraction) (f.minExponent + (field - 1 : Nat))

end Binary

/-- The exact number `coefficient * 2 ^ exponent`, negated when `negative`. -/
def signedPower (negative : Bool) (coefficient : Nat) (exponent : Int) : Rat :=
  (if negative then -1 else 1) * (coefficient : Rat) * (2 : Rat) ^ exponent

/-- The exact number that a word stands for, if it is one. -/
def Binary.toRat? {f : Format} (x : Binary f) : Option Rat :=
  match x.unpack with
  | .finite negative coefficient exponent => some (signedPower negative coefficient exponent)
  | _ => none

end GlBridge
