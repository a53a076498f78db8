import GlBridge.Binary.Round

/-!
# Arithmetic on words

The five basic operations, comparison and the conversions between formats and
integers. Each takes the exact result over the rationals and rounds it once
(`Binary.round`), so no operation depends on the order in which another one is
evaluated and nothing is fused.

Special operands follow the usual rules: a NaN operand is passed on, made quiet,
the left one first (`propagate`); an operation without a meaningful result
delivers `Binary.invalid`; negation only flips the sign bit.
-/

namespace GlBridge

/-- The floor of the square root, found two bits at a time from the top. `steps`
bounds the number of bit pairs. -/
def sqrtFloor : (steps : Nat) → Nat → Nat
  | 0, _ => 0
  | steps + 1, n =>
    let r := 2 * sqrtFloor steps (n / 4)
    if (r + 1) * (r + 1) ≤ n then r + 1 else r

namespace Binary

variable {f : Format}

/-- Negation flips the sign bit, also of a zero, an infinity or a NaN. -/
protected def neg (x : Binary f) : Binary f := ofMagnitude (!x.isNegative) x.magnitude

/-- The left operand, made quiet, if it is a NaN; else the right one, if it is a NaN;
else what `op` delivers for two operands without a NaN. -/
def propagate (op : Binary f → Binary f → Binary f) (x y : Binary f) : Binary f :=
  if x.isNaN then x.quiet else if y.isNaN then y.quiet else op x y

/-- The sum. Infinities of opposite sign have none; an exact zero is negative only if
both operands are. -/
protected def add : Binary f → Binary f → Binary f :=
  propagate fun x y =>
    match x.unpack, y.unpack with
    | .infinite a, .infinite b => if a = b then infinity a else invalid
    | .infinite a, _ => infinity a
    | _, .infinite b => infinity b
    | .finite a m e, .finite b n k =>
      round (a && b) (signedPower a m e + signedPower b n k)
    | _, _ => invalid

/-- The difference is the sum with the right operand negated, save that a NaN on the
right keeps its sign. -/
protected def sub : Binary f → Binary f → Binary f :=
  propagate fun x y => x.add y.neg

/-- The product. Zero times infinity has none. -/
protected def mul : Binary f → Binary f → Binary f :=
  propagate fun x y =>
    let sign := x.isNegative != y.isNegative
    match x.unpack, y.unpack with
    | .finite a m e, .finite b n k => round sign (signedPower a m e * signedPower b n k)
    | _, _ => if x.isZero || y.isZero then invalid else infinity sign

/-- The quotient. A number over zero is an infinity; zero over zero and infinity over
infinity have none. -/
protected def div : Binary f → Binary f → Binary f :=
  propagate fun x y =>
    let sign := x.isNegative != y.isNegative
    match x.unpack, y.unpack with
    | .finite a m e, .finite b n k =>
      if y.isZero then (if x.isZero then invalid else infinity sign)
      else round sign (signedPower a m e / signedPower b n k)
    | .finite _ _ _, _ => zero sign
    | _, .finite _ _ _ => infinity sign
    | _, _ => invalid

/-- The word nearest to the square root of `coefficient * 2 ^ exponent`. The root is
taken with twice the precision, and a last bit is set when it is not exact: that
bit lies below every rounding boundary, so it decides ties and nothing else. -/
def roundSqrt (coefficient : Nat) (exponent : Int) : Binary f :=
  -- an even exponent remains, so that it can be halved
  let shift : Nat := 2 * f.fractionBits + 6 + (exponent % 2).toNat
  let radicand := coefficient <<< shift
  let root := sqrtFloor (radicand.log2 / 2 + 1) radicand
  let inexact : Nat := if root * root = radicand then 0 else 1
  round false (signedPower false (2 * root + inexact) ((exponent - shift) / 2 - 1))

/-- The square root. A negative zero is its own root; other negative numbers have none. -/
def sqrt (x : Binary f) : Binary f :=
  if x.isNaN then x.quiet
  else if x.isZero then x
  else if x.isNegative then invalid
  else
    match x.unpack with
    | .finite _ m e => roundSqrt m e
    | _ => x

/-- Comparison as numbers: zeros of either sign are equal, a NaN equals nothing. -/
protected def beq (x y : Binary f) : Bool :=
  !x.isNaN && !y.isNaN && (x.bits == y.bits || x.isZero && y.isZero)

instance : Neg (Binary f) := ⟨Binary.neg⟩
instance : Add (Binary f) := ⟨Binary.add⟩
instance : Sub (Binary f) := ⟨Binary.sub⟩
instance : Mul (Binary f) := ⟨Binary.mul⟩
instance : Div (Binary f) := ⟨Binary.div⟩
instance : BEq (Binary f) := ⟨Binary.beq⟩

/-- The same number in another format, rounded if need be. A NaN stays one: its sign
and the leading bits of its payload are kept and it is made quiet. -/
def convert (g : Format) (x : Binary f) : Binary g :=
  match x.unpack with
  | .nan =>
    let payload := x.magnitude % (1 <<< f.fractionBits)
    let moved := payload <<< g.fractionBits >>> f.fractionBits
    ofMagnitude x.isNegative (g.infinityMagnitude + (moved ||| g.quietBit))
  | .infinite negative => infinity negative
  | .finite negative m e => round negative (signedPower negative m e)

/-- The integer part, clamped to `0 … bound`. A NaN counts as zero. -/
def truncateTo (bound : Nat) (x : Binary f) : Nat :=
  match x.unpack with
  | .nan => 0
  | .infinite negative => if negative then 0 else bound
  | .finite negative m e =>
    if negative then 0
    else min bound (if 0 ≤ e then m <<< e.toNat else m >>> (-e).toNat)

end Binary

namespace Double

/-- The tangent, for finite numbers as computed by the platform's mathematical library. An
infinity has none. -/
def tan (x : Double) : Double :=
  match x.unpack with
  | .nan => x.quiet
  | .infinite _ => .invalid
  | .finite _ _ _ => ⟨(Float.tan (Float.ofBits (UInt64.ofBitVec x.bits))).toBits.toBitVec⟩

/-- The number nearest to π. -/
def pi : Double := ⟨0x400921FB54442D18#64⟩

end Double

end GlBridge
