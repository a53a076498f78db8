import GlBridge.Binary.Arithmetic
import GlBridge.Proofs.Decimal.Reading

/-!
# Arithmetic on words is arithmetic on numbers, rounded

`Binary.value` is the number that a word stands for. Between words that stand for numbers, each
operation is the exact one followed by one rounding (`Binary.mul_eq_round`, `Binary.add_eq_round`,
`Binary.div_eq_round`), so nothing has to be said about bits any more; only the sign of a zero is
kept track of apart.

Two consequences are exact. The word nearest to a word's own number is the word again
(`Binary.round_value`), whence a factor of one changes no bit (`Single.mul_one`); and a factor of
zero leaves a zero (`Binary.isZero_mul`).
-/

namespace GlBridge

/-- Without a sign it is the coefficient times the power, ... -/
theorem signedPower_false (m : Nat) (e : Int) : signedPower false m e = m * 2 ^ e := by
  rw [signedPower, if_neg Bool.false_ne_true, one_mul]

/-- ... and with one the same below zero. -/
theorem signedPower_true (m : Nat) (e : Int) : signedPower true m e = -(m * 2 ^ e) := by
  rw [signedPower, if_pos rfl, mul_assoc, neg_one_mul]

namespace Binary

variable {f : Format} {x y : Binary f}

/-! ### The number that a word stands for -/

/-- The number that a word stands for, and zero for a word that stands for none. -/
def value (x : Binary f) : Rat := x.toRat?.getD 0

/-- The number can be read off the unpacked word. -/
theorem value_of_unpack {negative : Bool} {m : Nat} {e : Int}
    (h : x.unpack = .finite negative m e) : x.value = signedPower negative m e := by
  unfold value toRat?
  rw [h]
  rfl

/-- A word that is a number stands for its value. -/
theorem toRat_eq_value (h : x.isFinite = true) : x.toRat? = some x.value := by
  obtain ⟨m, e, hunpack⟩ := unpack_of_isFinite h
  rw [value_of_unpack hunpack]
  unfold toRat?
  rw [hunpack]

/-- The word that is nearest to a word's number is this word, but for its sign. -/
theorem nearest_value (h : x.isFinite = true) : f.nearest x.value = x.magnitude := by
  obtain ⟨m, e, hunpack⟩ := unpack_of_isFinite h
  rw [value_of_unpack hunpack]
  -- rounding goes by the size of a number, so the sign can be left out
  cases x.isNegative with
  | false => rw [signedPower_false, nearest_unpack hunpack]
  | true => rw [signedPower_true, Format.nearest_neg, nearest_unpack hunpack]

/-- The sign is the one that was packed. -/
@[simp] theorem isNegative_ofMagnitude (negative : Bool) {n : Nat}
    (h : n < 1 <<< f.magnitudeBits) :
    (ofMagnitude negative n : Binary f).isNegative = negative := by
  rw [isNegative, toNat_bits_ofMagnitude _ h]
  cases negative with
  | false => exact decide_eq_false (not_le.2 h)
  | true => exact decide_eq_true (Nat.le_add_left _ _)

/-- Coefficient and field can be told from the magnitude that they make. -/
theorem eq_of_magnitude {m m' field field' p : Nat} (hm : p ≤ m ∧ m < 2 * p)
    (hm' : p ≤ m' ∧ m' < 2 * p) (h : m + field * p = m' + field' * p) :
    m = m' ∧ field = field' := by
  obtain ⟨r, rfl⟩ := Nat.exists_eq_add_of_le hm.1
  obtain ⟨r', rfl⟩ := Nat.exists_eq_add_of_le hm'.1
  have hrest : r + p * field = r' + p * field' := by
    rw [Nat.mul_comm p, Nat.mul_comm p]
    omega
  have hp : 0 < p := by omega
  -- what is less than `p` does not show in the quotient
  have hquotient : ∀ r k, r < p → (r + p * k) / p = k := fun r k hr => by
    rw [Nat.add_mul_div_left _ _ hp, Nat.div_eq_of_lt hr, Nat.zero_add]
  obtain rfl : field = field' := by
    rw [← hquotient r field (by omega), hrest, hquotient r' field' (by omega)]
  exact ⟨by omega, rfl⟩

/-- **What was packed is what the word stands for**: a coefficient with its leading bit, or any
coefficient next to the smallest exponent. It may also be the next power of two, which carries into
the exponent field. -/
theorem value_ofMagnitude (negative : Bool) {c k : Nat} (hcarry : c ≤ 2 ^ (f.fractionBits + 1))
    (hleading : k = 0 ∨ 2 ^ f.fractionBits ≤ c)
    (hfinite : c + k * 2 ^ f.fractionBits < f.infinityMagnitude) :
    (ofMagnitude negative (c + k * 2 ^ f.fractionBits) : Binary f).value =
      signedPower negative c (f.minExponent + k) := by
  have hbits := hfinite.trans infinityMagnitude_lt
  have hmagnitude := magnitude_ofMagnitude (f := f) negative hbits
  obtain ⟨m, e, hunpack⟩ :=
    unpack_of_isFinite (x := ofMagnitude negative (c + k * 2 ^ f.fractionBits))
      (decide_eq_true (hmagnitude ▸ hfinite))
  obtain ⟨-, -, hm⟩ := unpack_eq_finite hunpack
  rw [value_of_unpack hunpack, isNegative_ofMagnitude _ hbits]
  rw [hmagnitude] at hm
  rw [Nat.pow_succ'] at hcarry
  have hk : k = 0 ∨ 2 ^ f.fractionBits ≤ k * 2 ^ f.fractionBits :=
    k.eq_zero_or_pos.imp id (Nat.le_mul_of_pos_left _)
  -- read the packed word again: its field is zero, or there is a leading bit
  rcases hm with ⟨rfl, hlt, rfl⟩ | ⟨field, hpacked, hlow, hhigh, rfl⟩
  · -- no leading bit: the smallest exponent
    obtain rfl : k = 0 := by omega
    rw [Nat.zero_mul, Nat.add_zero, Nat.cast_zero, add_zero]
  · rw [Nat.pow_succ'] at hhigh
    rcases Nat.lt_or_eq_of_le hcarry with hlt | hcarried
    · have hc : 2 ^ f.fractionBits ≤ c := by
        rcases hleading with rfl | hc
        · omega
        · exact hc
      obtain ⟨rfl, rfl⟩ := eq_of_magnitude ⟨hc, hlt⟩ ⟨hlow, hhigh⟩ hpacked
      rfl
    · -- the coefficient is halved and the exponent goes up by one
      have hnext : 2 ^ f.fractionBits + (k + 1) * 2 ^ f.fractionBits =
          m + field * 2 ^ f.fractionBits := by
        rw [← hpacked, hcarried, Nat.add_mul]
        omega
      obtain ⟨rfl, rfl⟩ := eq_of_magnitude ⟨le_rfl, by omega⟩ ⟨hlow, hhigh⟩ hnext
      rw [hcarried, signedPower, signedPower, Nat.cast_add, ← add_assoc,
        zpow_add₀ (by norm_num) _ ((1 : Nat) : Int)]
      push_cast
      ring

/-- Numbers without the sign bit are not below zero, ... -/
theorem value_nonneg (h : x.isFinite = true) (hsign : x.isNegative = false) : 0 ≤ x.value := by
  obtain ⟨m, e, hunpack⟩ := unpack_of_isFinite h
  rw [value_of_unpack hunpack, hsign, signedPower_false]
  positivity

/-- ... and those with it are not above. -/
theorem value_nonpos (h : x.isFinite = true) (hsign : x.isNegative = true) : x.value ≤ 0 := by
  obtain ⟨m, e, hunpack⟩ := unpack_of_isFinite h
  rw [value_of_unpack hunpack, hsign, signedPower_true, neg_nonpos]
  positivity

/-- Both zeros stand for zero. -/
theorem value_of_isZero (h : x.isZero = true) : x.value = 0 := by
  have hmagnitude : x.magnitude = 0 := beq_iff_eq.1 h
  by_cases hfinite : x.isFinite = true
  · obtain ⟨m, e, hunpack⟩ := unpack_of_isFinite hfinite
    obtain ⟨-, -, ⟨hm, -, -⟩ | ⟨field, hm, hlow, -, -⟩⟩ := unpack_eq_finite hunpack
    · rw [value_of_unpack hunpack, hm, hmagnitude, signedPower, Nat.cast_zero, mul_zero, zero_mul]
    · -- a leading bit would have to be zero
      have hpos : 0 < 2 ^ f.fractionBits := by positivity
      omega
  · -- neither a NaN nor an infinity stands for a number
    unfold value toRat?
    split
    next hunpack => exact absurd (unpack_eq_finite hunpack).1 hfinite
    next => rfl

/-- **Only a zero stands for zero.** -/
theorem value_eq_zero_iff (h : x.isFinite = true) : x.value = 0 ↔ x.isZero = true := by
  refine ⟨fun hzero => beq_iff_eq.2 ?_, value_of_isZero⟩
  rw [← nearest_value h, hzero, Format.nearest_zero]

/-- **A word is the nearest to its own number.** -/
theorem round_value (h : x.isFinite = true) : round x.isNegative x.value = x := by
  -- the sign of the number is that of the word, and for a zero the one that is asked for
  have hsign : (if x.value = 0 then x.isNegative else decide (x.value < 0)) = x.isNegative := by
    by_cases hzero : x.value = 0
    · rw [if_pos hzero]
    · rw [if_neg hzero]
      cases hneg : x.isNegative with
      | false => exact decide_eq_false (value_nonneg h hneg).not_gt
      | true => exact decide_eq_true (lt_of_le_of_ne (value_nonpos h hneg) hzero)
  rw [round_eq, hsign, nearest_value h, ofMagnitude_magnitude]

/-! ### Operations -/

/-- A number is no NaN. -/
theorem not_isNaN_of_isFinite (h : x.isFinite = true) : ¬x.isNaN = true := by
  simp only [isFinite, isNaN, decide_eq_true_iff] at h ⊢
  omega

/-- Between numbers an operation is carried out as it stands. -/
theorem propagate_of_isFinite (hx : x.isFinite = true) (hy : y.isFinite = true)
    (op : Binary f → Binary f → Binary f) : propagate op x y = op x y := by
  unfold propagate
  rw [if_neg (not_isNaN_of_isFinite hx), if_neg (not_isNaN_of_isFinite hy)]

/-- **A product is the exact one, rounded**; should it be zero, the signs decide on its sign. -/
theorem mul_eq_round (hx : x.isFinite = true) (hy : y.isFinite = true) :
    x * y = round (x.isNegative != y.isNegative) (x.value * y.value) := by
  obtain ⟨m, e, hunpack⟩ := unpack_of_isFinite hx
  obtain ⟨n, k, hunpack'⟩ := unpack_of_isFinite hy
  rw [value_of_unpack hunpack, value_of_unpack hunpack']
  show Binary.mul x y = _
  rw [Binary.mul, propagate_of_isFinite hx hy, hunpack, hunpack']

/-- **A sum is the exact one, rounded**; a sum of zero is negative only if both summands were. -/
theorem add_eq_round (hx : x.isFinite = true) (hy : y.isFinite = true) :
    x + y = round (x.isNegative && y.isNegative) (x.value + y.value) := by
  obtain ⟨m, e, hunpack⟩ := unpack_of_isFinite hx
  obtain ⟨n, k, hunpack'⟩ := unpack_of_isFinite hy
  rw [value_of_unpack hunpack, value_of_unpack hunpack']
  show Binary.add x y = _
  rw [Binary.add, propagate_of_isFinite hx hy, hunpack, hunpack']

/-- **A quotient is the exact one, rounded**, unless the divisor is zero. -/
theorem div_eq_round (hx : x.isFinite = true) (hy : y.isFinite = true) (h : y.isZero = false) :
    x / y = round (x.isNegative != y.isNegative) (x.value / y.value) := by
  obtain ⟨m, e, hunpack⟩ := unpack_of_isFinite hx
  obtain ⟨n, k, hunpack'⟩ := unpack_of_isFinite hy
  rw [value_of_unpack hunpack, value_of_unpack hunpack']
  show Binary.div x y = _
  rw [Binary.div, propagate_of_isFinite hx hy, hunpack, hunpack']
  simp only [h, Bool.false_eq_true, if_false]

/-! ### Factors of one and of zero -/

/-- A zero of either sign is one. -/
theorem isZero_zero (negative : Bool) : (zero negative : Binary f).isZero = true := by
  have hpos : 0 < 1 <<< f.magnitudeBits := by rw [Nat.shiftLeft_eq]; positivity
  unfold zero isZero
  rw [magnitude_ofMagnitude _ hpos]
  rfl

/-- **A factor of zero leaves a zero.** -/
theorem isZero_mul (hx : x.isFinite = true) (hy : y.isFinite = true)
    (h : x.isZero = true ∨ y.isZero = true) : (x * y).isZero = true := by
  have hproduct : x.value * y.value = 0 := by
    rcases h with h | h
    · rw [value_of_isZero h, zero_mul]
    · rw [value_of_isZero h, mul_zero]
  rw [mul_eq_round hx hy, hproduct]
  exact isZero_zero _

end Binary

namespace Single

theorem isFinite_zero : (0 : Single).isFinite = true := by decide

theorem isZero_zero : (0 : Single).isZero = true := by decide

theorem isFinite_one : (1 : Single).isFinite = true := by decide

/-- The word for one stands for one. -/
theorem value_one : (1 : Single).value = 1 := by
  -- a coefficient of 24 digits, of which only the first is set
  have hunpack : (1 : Single).unpack = .finite false (2 ^ 23) (-23) := by decide
  rw [Binary.value_of_unpack hunpack, signedPower_false]
  norm_num

/-- **A factor of one changes no bit.** -/
theorem mul_one {x : Single} (h : x.isFinite = true) : x * 1 = x := by
  have hsign : (1 : Single).isNegative = false := by decide
  rw [Binary.mul_eq_round h isFinite_one, value_one, Rat.mul_one, hsign, Bool.bne_false,
    Binary.round_value h]

/-- A zero of either sign equals zero as a number. -/
theorem beq_zero {x : Single} (h : x.isZero = true) : (x == 0) = true := by
  have hmagnitude : x.magnitude = 0 := beq_iff_eq.1 h
  have hnumber : x.isNaN = false := by
    unfold Binary.isNaN
    rw [hmagnitude]
    rfl
  have hzero : (0 : Single).isNaN = false := by decide
  show Binary.beq x 0 = true
  rw [Binary.beq, hnumber, hzero, h, isZero_zero]
  simp only [Bool.not_false, Bool.and_self, Bool.or_true]

/-- The sign does not matter to whether a word is a number. -/
theorem isFinite_neg {x : Single} (h : x.isFinite = true) : (-x).isFinite = true := by
  -- only the bits below the sign are looked at
  have hmagnitude : (-x).magnitude = x.magnitude :=
    Binary.magnitude_ofMagnitude _ (Nat.mod_lt _ (by decide))
  unfold Binary.isFinite at h ⊢
  rwa [hmagnitude]

end Single

end GlBridge
