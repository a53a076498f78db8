import GlBridge.Decimal.Layout

/-!
# JSON numbers

A number is either an integer that fits 64 bits, signed or unsigned, or a finite
64-bit floating-point number. Which of the two a text denotes is decided by its
spelling: without fraction and exponent it is an integer, unless it is out of range
or a negative zero.

* `Number.write` gives the text of a number, `Number.read?` reads one.
* Reading keeps two failures apart: a text that breaks the grammar is refused, and a
  text that follows it but lies beyond the largest float is a number without a value.
-/

namespace GlBridge

/-- A number of a JSON text. -/
inductive Number where
  | integer (value : Int) (inRange : -0x8000000000000000 ≤ value ∧ value < 0x10000000000000000)
  | float (value : Double) (isFinite : value.isFinite = true)
  deriving DecidableEq

namespace Number

/-- Floats are written positionally from `0.00001` up to sixteen digits before the point. -/
def layout : Layout := ⟨-5, 15⟩

/-- The text of an integer. -/
def writeInteger (i : Int) : List Char :=
  (if i < 0 then ['-'] else []) ++ Nat.toDigits 10 i.natAbs

/-- The text of a number: integers plain, floats with the fewest digits that read back
and always with a point or an exponent. -/
def write : Number → List Char
  | .integer i _ => writeInteger i
  | .float x _ => Decimal.write layout x.shortest

/-- The number that a run of digits denotes, continuing `n`. -/
def digitsValue (n : Nat) (digits : List Char) : Nat :=
  digits.foldl (fun n c => 10 * n + (c.toNat - '0'.toNat)) n

/-- The parts of a number's spelling: the digits before the point, those behind it and
the exponent. -/
structure Spelling where
  negative : Bool
  whole : List Char
  /-- digits behind the point, if there is one -/
  fraction : Option (List Char)
  exponent : Option Int

/-- Splits `.` and the digits behind it off a text. -/
def readFraction? : List Char → Option (Option (List Char) × List Char)
  | '.' :: cs =>
    let digits := cs.takeWhile Char.isDigit
    if digits.isEmpty then none else some (some digits, cs.dropWhile Char.isDigit)
  | cs => some (none, cs)

/-- Reads the digits of an exponent, which must be all that is left. -/
def readExponentDigits? (negative : Bool) (cs : List Char) : Option Int :=
  if cs.isEmpty || !cs.all Char.isDigit then none
  else
    let n : Int := digitsValue 0 cs
    some (if negative then -n else n)

/-- Reads an exponent, which must be all that is left. -/
def readExponent? : List Char → Option (Option Int)
  | [] => some none
  | c :: cs =>
    if c = 'e' ∨ c = 'E' then
      match cs with
      | '+' :: ds => (readExponentDigits? false ds).map some
      | '-' :: ds => (readExponentDigits? true ds).map some
      | ds => (readExponentDigits? false ds).map some
    else none

/-- Reads the part of a number behind its sign. A leading zero stands alone. -/
def readUnsigned? (negative : Bool) (cs : List Char) : Option Spelling := do
  let whole := cs.takeWhile Char.isDigit
  if whole.isEmpty || (whole.head? == some '0' && whole.length != 1) then none
  let (fraction, rest) ← readFraction? (cs.dropWhile Char.isDigit)
  let exponent ← readExponent? rest
  return ⟨negative, whole, fraction, exponent⟩

/-- Reads the spelling of a number: an optional minus sign, digits without a superfluous
zero in front, an optional fraction, an optional exponent. -/
def Spelling.read? : List Char → Option Spelling
  | '-' :: cs => readUnsigned? true cs
  | cs => readUnsigned? false cs

/-- The decimal number that a spelling denotes. -/
def Spelling.decimal (s : Spelling) : Decimal :=
  let fraction := s.fraction.getD []
  ⟨s.negative, digitsValue (digitsValue 0 s.whole) fraction,
    s.exponent.getD 0 - fraction.length⟩

/-- The float nearest to a decimal, unless that is beyond the largest one. -/
def ofDecimal? (d : Decimal) : Option Number :=
  let x := d.toDouble
  if h : x.isFinite then some (.float x h) else none

/-- The integer that a spelling denotes, if it is spelled as one, in range, and not a
negative zero. -/
def Spelling.integer? (s : Spelling) : Option Number :=
  if s.fraction.isSome || s.exponent.isSome then none
  else
    let n : Int := digitsValue 0 s.whole
    let i := if s.negative then -n else n
    if s.negative && n == 0 then none
    else if h : -0x8000000000000000 ≤ i ∧ i < 0x10000000000000000 then some (.integer i h)
    else none

/-- The value of a spelling. -/
def Spelling.value? (s : Spelling) : Option Number :=
  match s.integer? with
  | some n => some n
  | none => ofDecimal? s.decimal

/-- Reads a number. The outer failure is a text that is no number, the inner one a
number without a value. -/
def read? (cs : List Char) : Option (Option Number) :=
  (Spelling.read? cs).map Spelling.value?

/-- The number as a float: an integer takes the nearest one. -/
def toDouble : Number → Double
  | .integer i _ => .ofInt i
  | .float x _ => x

/-- A natural number that fits 64 bits. -/
def ofNat (n : Nat) (h : n < 0x10000000000000000) : Number :=
  .integer n (by omega)

end Number

end GlBridge
