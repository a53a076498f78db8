import GlBridge.Proofs.Binary.Error
import Mathlib.Data.Nat.Sqrt

/-!
# Squares, their sums and square roots

A sum of squares is no NaN and has no sign (`Binary.Nonneg`), though it may be too great and then
is the infinity. An infinity is not lost again by adding to it, so a sum that is a number has
summands that are (`Binary.Nonneg.isFinite_of_add`).

The square root of a word is computed from an integer root and a last bit that stands for all that
is missing. `Binary.sqrt_eq_round` says what comes of it: one number is rounded, and its square
differs from the operand by a small fraction of it, less than rounding itself accounts for.
-/

namespace GlBridge

namespace Binary

variable {f : Format} {x y : Binary f}

/-! ### Words without a sign -/

/-- A word that is no NaN and has no sign: a number that is not negative, or the infinity. -/
structure Nonneg (x : Binary f) : Prop where
  /-- it is no NaN -/
  not_isNaN : ¬x.isNaN = true
  /-- its sign bit is not set -/
  not_isNegative : x.isNegative = false

/-- The infinity has the greatest bits that are no NaN's. -/
theorem magnitude_infinity (negative : Bool) :
    (infinity negative : Binary f).magnitude = f.infinityMagnitude :=
  magnitude_ofMagnitude _ infinityMagnitude_lt

/-- ... and no NaN either. -/
theorem not_isNaN_infinity (negative : Bool) : ¬(infinity negative : Binary f).isNaN = true := by
  rw [isNaN, magnitude_infinity, decide_eq_true_iff]
  exact lt_irrefl _

/-- So it is no number, ... -/
theorem not_isFinite_infinity (negative : Bool) :
    ¬(infinity negative : Binary f).isFinite = true := by
  rw [isFinite, magnitude_infinity, decide_eq_true_iff]
  exact lt_irrefl _

theorem nonneg_infinity : (infinity false : Binary f).Nonneg where
  not_isNaN := not_isNaN_infinity false
  not_isNegative := isNegative_ofMagnitude _ infinityMagnitude_lt

theorem unpack_infinity (negative : Bool) :
    (infinity negative : Binary f).unpack = .infinite negative := by
  have hinfinite : (infinity negative : Binary f).isInfinite = true :=
    beq_iff_eq.2 (magnitude_infinity negative)
  unfold unpack
  rw [if_neg (not_isNaN_infinity negative), if_pos hinfinite]
  exact congrArg Unpacked.infinite (isNegative_ofMagnitude _ infinityMagnitude_lt)

/-- A word without a sign that is no number is the infinity. -/
theorem Nonneg.eq_infinity (h : x.Nonneg) (hfinite : ¬x.isFinite = true) : x = infinity false := by
  have hmagnitude : x.magnitude = f.infinityMagnitude := by
    have hnan := h.not_isNaN
    simp only [isNaN, isFinite, decide_eq_true_iff] at hnan hfinite
    omega
  rw [← ofMagnitude_magnitude x, h.not_isNegative, hmagnitude]
  rfl

/-- Such a word does not stand for less than zero. -/
theorem Nonneg.value_nonneg (h : x.Nonneg) : 0 ≤ x.value := by
  by_cases hfinite : x.isFinite = true
  · exact Binary.value_nonneg hfinite h.not_isNegative
  · rw [h.eq_infinity hfinite, value, toRat?, unpack_infinity]
    rfl

/-- What is not negative is rounded to such a word. -/
theorem nonneg_round {q : Rat} (h : 0 ≤ q) : (round false q : Binary f).Nonneg where
  not_isNaN := by
    have hle := Format.nearest_le (f := f) q
    rw [isNaN, round_eq, magnitude_ofMagnitude _ (hle.trans_lt infinityMagnitude_lt),
      decide_eq_true_iff]
    exact not_lt.2 hle
  not_isNegative := isNegative_round_of_nonneg h

/-- **A square has no sign.** -/
theorem nonneg_mul_self (h : x.isFinite = true) : (x * x).Nonneg := by
  rw [mul_eq_round h h, bne_self_eq_false]
  exact nonneg_round (mul_self_nonneg _)

/-- The infinity is its own root. -/
theorem sqrt_infinity : (infinity false : Binary f).sqrt = infinity false := by
  unfold sqrt
  rw [if_neg nonneg_infinity.not_isNaN, unpack_infinity, nonneg_infinity.not_isNegative]
  simp only [Bool.false_eq_true, if_false, ite_self]

/-- A number divided by the infinity is a zero. -/
theorem isZero_div_infinity (hx : x.isFinite = true) : (x / infinity false).isZero = true := by
  obtain ⟨m, e, hunpack⟩ := unpack_of_isFinite hx
  -- both signs are kept out of it: the outcome is a zero of one sign or the other
  show (Binary.div x _).isZero = true
  rw [Binary.div, propagate, if_neg (not_isNaN_of_isFinite hx), if_neg nonneg_infinity.not_isNaN,
    unpack_infinity, hunpack]
  exact isZero_zero _

/-- The infinity takes in whatever is added to it from the right, ... -/
theorem Nonneg.infinity_add (hy : y.Nonneg) : infinity false + y = infinity false := by
  show Binary.add _ y = _
  rw [Binary.add, propagate, if_neg nonneg_infinity.not_isNaN, if_neg hy.not_isNaN,
    unpack_infinity]
  by_cases hfinite : y.isFinite = true
  · obtain ⟨m, e, hunpack⟩ := unpack_of_isFinite hfinite
    rw [hunpack]
  · rw [hy.eq_infinity hfinite, unpack_infinity]
    rfl

/-- ... and from the left. -/
theorem add_infinity (hx : x.isFinite = true) : x + infinity false = infinity false := by
  obtain ⟨m, e, hunpack⟩ := unpack_of_isFinite hx
  show Binary.add x _ = _
  rw [Binary.add, propagate, if_neg (not_isNaN_of_isFinite hx), if_neg nonneg_infinity.not_isNaN,
    unpack_infinity, hunpack]

/-- A sum of words without a sign, one of which is no number, is the infinity. -/
theorem Nonneg.add_eq_infinity (hx : x.Nonneg) (hy : y.Nonneg)
    (h : ¬(x.isFinite = true ∧ y.isFinite = true)) : x + y = infinity false := by
  by_cases hfinite : x.isFinite = true
  · rw [hy.eq_infinity fun hy' => h ⟨hfinite, hy'⟩]
    exact add_infinity hfinite
  · rw [hx.eq_infinity hfinite]
    exact hy.infinity_add

/-- **The summands of a number are numbers**, where none has a sign. -/
theorem Nonneg.isFinite_of_add (hx : x.Nonneg) (hy : y.Nonneg) (h : (x + y).isFinite = true) :
    x.isFinite = true ∧ y.isFinite = true := by
  by_contra hnot
  rw [hx.add_eq_infinity hy hnot] at h
  exact not_isFinite_infinity false h

/-- **A sum of such words is one as well**, too great or not. -/
theorem Nonneg.add (hx : x.Nonneg) (hy : y.Nonneg) : (x + y).Nonneg := by
  by_cases h : x.isFinite = true ∧ y.isFinite = true
  · rw [add_eq_round h.1 h.2, hx.not_isNegative, Bool.false_and]
    exact nonneg_round (add_nonneg hx.value_nonneg hy.value_nonneg)
  · rw [hx.add_eq_infinity hy h]
    exact nonneg_infinity

end Binary

/-! ### Integer roots -/

/-- `sqrtFloor` is the integer square root. -/
theorem sqrtFloor_eq {steps n : Nat} (h : n < 4 ^ steps) : sqrtFloor steps n = n.sqrt := by
  -- on the digits of base four, of which each gives one bit of the root
  induction steps generalizing n with
  | zero =>
    obtain rfl : n = 0 := by omega
    rfl
  | succ steps ih =>
    have hquarter : n / 4 < 4 ^ steps := by
      rw [Nat.pow_succ] at h
      omega
    have hlow := Nat.sqrt_le (n / 4)
    have hhigh := Nat.succ_le_succ_sqrt (n / 4)
    rw [sqrtFloor, ih hquarter]
    generalize (n / 4).sqrt = s at hlow hhigh
    have hzero : 2 * s * (2 * s) = 4 * (s * s) := by ring
    have hone : (2 * s + 1 + 1) * (2 * s + 1 + 1) = 4 * ((s + 1) * (s + 1)) := by ring
    -- the last bit of the root is one or zero
    split_ifs with hbit
    · exact Nat.eq_sqrt.2 ⟨hbit, by omega⟩
    · exact Nat.eq_sqrt.2 ⟨by omega, by omega⟩

/-- Twice a root, with a last bit that stands for what is missing. -/
theorem abs_sq_root_sub_le (n : Nat) :
    |((2 * n.sqrt + if n.sqrt * n.sqrt = n then 0 else 1 : Nat) : Rat) ^ 2 - 4 * n| ≤
      4 * (n.sqrt : Rat) := by
  have hlow := Nat.sqrt_le n
  have hhigh := Nat.succ_le_succ_sqrt n
  generalize n.sqrt = s at hlow hhigh
  -- an exact root has nothing missing, and any other one is off by less than one
  by_cases hexact : s * s = n
  · rw [if_pos hexact, ← hexact]
    push_cast
    rw [show (2 * (s : Rat) + 0) ^ 2 - 4 * (s * s) = 0 by ring, abs_zero]
    positivity
  · have hlow' : (s : Rat) * s + 1 ≤ n := by
      exact_mod_cast Nat.succ_le_of_lt (lt_of_le_of_ne hlow hexact)
    have hhigh' : (n : Rat) + 1 ≤ (s + 1) * (s + 1) := by exact_mod_cast hhigh
    rw [if_neg hexact, abs_le]
    push_cast
    constructor <;> linarith

namespace Binary

variable {f : Format}

/-- The number that is rounded to a root, and how far its square is off. -/
theorem roundSqrt_eq_round {m : Nat} (hm : 0 < m) (e : Int) :
    ∃ r : Rat, (roundSqrt m e : Binary f) = round false r ∧ 0 < r ∧
      |r * r - m * 2 ^ e| ≤ m * 2 ^ e / 2 ^ (f.fractionBits + 3) := by
  -- the digits that are added leave an even exponent
  obtain ⟨shift, hshift⟩ : ∃ s : Nat, s = 2 * f.fractionBits + 6 + (e % 2).toNat := ⟨_, rfl⟩
  obtain ⟨h, hh⟩ : ∃ h : Int, e - shift = 2 * h := ⟨(e - shift) / 2, by omega⟩
  obtain ⟨n, hn⟩ : ∃ n : Nat, n = m <<< shift := ⟨_, rfl⟩
  have hradicand : (n : Rat) * (2 ^ h * 2 ^ h) = m * 2 ^ e := by
    have he : e = (shift : Int) + (h + h) := by omega
    rw [hn, Nat.shiftLeft_eq, he, zpow_add₀ (by norm_num), zpow_add₀ (by norm_num), zpow_natCast]
    push_cast
    ring
  -- the root has three digits more than a fraction
  have hdigits : 2 ^ (f.fractionBits + 3) ≤ n.sqrt := by
    rw [Nat.le_sqrt, hn, Nat.shiftLeft_eq, ← Nat.pow_add]
    calc 2 ^ (f.fractionBits + 3 + (f.fractionBits + 3))
        ≤ 2 ^ shift := Nat.pow_le_pow_right (by norm_num) (by omega)
      _ ≤ m * 2 ^ shift := Nat.le_mul_of_pos_left _ hm
  -- as many steps as there are digits of base four
  have hfuel : n < 4 ^ (n.log2 / 2 + 1) := by
    calc n < 2 ^ (n.log2 + 1) := Nat.lt_log2_self
      _ ≤ 2 ^ (2 * (n.log2 / 2 + 1)) := Nat.pow_le_pow_right (by norm_num) (by omega)
      _ = 4 ^ (n.log2 / 2 + 1) := by rw [Nat.pow_mul]
  obtain ⟨k, hk⟩ : ∃ k : Nat, k = 2 * n.sqrt + if n.sqrt * n.sqrt = n then 0 else 1 := ⟨_, rfl⟩
  have herror : |(k : Rat) ^ 2 - 4 * n| ≤ 4 * (n.sqrt : Rat) := hk ▸ abs_sq_root_sub_le n
  refine ⟨signedPower false k (h - 1), ?_, ?_, ?_⟩
  · unfold roundSqrt
    dsimp only
    rw [← hshift, ← hn, sqrtFloor_eq hfuel, ← hk, hh, Int.mul_ediv_cancel_left _ (by norm_num)]
  · have hkpos : 0 < k := by
      have hpos : 0 < 2 ^ (f.fractionBits + 3) := by positivity
      omega
    rw [signedPower_false]
    positivity
  · have hpow : (0 : Rat) < 2 ^ h * 2 ^ h := by positivity
    have hsquare : signedPower false k (h - 1) * signedPower false k (h - 1) - m * 2 ^ e =
        ((k : Rat) ^ 2 - 4 * n) * (2 ^ h * 2 ^ h) / 4 := by
      rw [← hradicand, signedPower_false, zpow_sub₀ (by norm_num), zpow_one]
      ring
    have hroot : (n.sqrt : Rat) * 2 ^ (f.fractionBits + 3) ≤ n := by
      have hle : n.sqrt * 2 ^ (f.fractionBits + 3) ≤ n :=
        (Nat.mul_le_mul_left _ hdigits).trans (Nat.sqrt_le n)
      exact_mod_cast hle
    rw [hsquare, abs_div, abs_mul, abs_of_pos hpow, abs_of_pos (show (0 : Rat) < 4 by norm_num),
      ← hradicand, le_div_iff₀ (by positivity)]
    calc |(k : Rat) ^ 2 - 4 * n| * (2 ^ h * 2 ^ h) / 4 * 2 ^ (f.fractionBits + 3)
        ≤ 4 * (n.sqrt : Rat) * (2 ^ h * 2 ^ h) / 4 * 2 ^ (f.fractionBits + 3) := by gcongr
      _ = (n.sqrt : Rat) * 2 ^ (f.fractionBits + 3) * (2 ^ h * 2 ^ h) := by ring
      _ ≤ n * (2 ^ h * 2 ^ h) := by gcongr

/-- **A square root is one rounding away from a number with nearly the right square.** -/
theorem sqrt_eq_round {x : Binary f} (h : x.Nonneg) (hfinite : x.isFinite = true)
    (hpos : 0 < x.value) :
    ∃ r : Rat, x.sqrt = round false r ∧ 0 < r ∧
      |r * r - x.value| ≤ x.value / 2 ^ (f.fractionBits + 3) := by
  obtain ⟨m, e, hunpack⟩ := unpack_of_isFinite hfinite
  have hvalue := value_of_unpack hunpack
  rw [h.not_isNegative, signedPower_false] at hvalue
  have hm : 0 < m := by
    refine Nat.pos_of_ne_zero fun hm => hpos.ne' ?_
    rw [hvalue, hm, Nat.cast_zero, zero_mul]
  have hzero : ¬x.isZero = true := fun hzero => hpos.ne' (value_of_isZero hzero)
  -- none of the special cases applies to a positive number
  have hsqrt : x.sqrt = roundSqrt m e := by
    unfold sqrt
    rw [if_neg h.not_isNaN, if_neg hzero, if_neg (h.not_isNegative ▸ Bool.false_ne_true), hunpack]
  rw [hsqrt, hvalue]
  exact roundSqrt_eq_round hm e

end Binary

end GlBridge
