import GlBridge.Proofs.Binary.Value

/-!
# How far rounding goes

The word nearest to a number lies within half a unit of it, where the unit is the spacing of the
format around the number (`Binary.abs_value_round_sub_le`). Above the subnormal numbers the spacing
goes with the number, and below it stays the same. So the error is at most a fraction of the number
plus a constant, whichever of the two applies (`Binary.value_round_near`).

The bound is of use for a result that is a number at all. A number that is below the end of the
range by two powers of two has such a result (`Binary.isFinite_round`).
-/

namespace GlBridge

/-! ### Nearest multiples are near -/

/-- A quotient that is rounded to the nearest integer is off by half at most. -/
theorem nearestQuotient_near (num : Nat) {den : Nat} (hden : 0 < den) :
    2 * num ≤ 2 * (nearestQuotient num den * den) + den ∧
      2 * (nearestQuotient num den * den) ≤ 2 * num + den := by
  have hsplit := Nat.div_add_mod num den
  have hrest := Nat.mod_lt num hden
  have hup : (num / den + 1) * den = den * (num / den) + den := by ring
  have hdown : num / den * den = den * (num / den) := Nat.mul_comm _ _
  unfold nearestQuotient
  dsimp only
  split_ifs with hlow hhigh
  · omega
  · omega
  · -- a tie, which is half a unit away on either side
    rcases Nat.mod_two_eq_zero_or_one (num / den) with heven | hodd
    · rw [heven, Nat.add_zero]
      omega
    · rw [hodd]
      omega

/-- The nearest multiple is at most half a unit away. -/
theorem nearestMultiple_near (num : Nat) {den : Nat} (hden : 0 < den) (e : Int) :
    |(nearestMultiple num den e : Rat) * 2 ^ e - num / den| ≤ 2 ^ e / 2 := by
  have hd : (0 : Rat) < den := by exact_mod_cast hden
  unfold nearestMultiple
  -- the multiple is a rounded quotient with the spacing on the one side or the other
  by_cases he : 0 ≤ e
  · obtain ⟨n, rfl⟩ := Int.eq_ofNat_of_zero_le he
    rw [if_pos he, Int.toNat_natCast, Nat.shiftLeft_eq, zpow_natCast]
    obtain ⟨hlow, hhigh⟩ := nearestQuotient_near num (show 0 < den * 2 ^ n by positivity)
    generalize nearestQuotient num (den * 2 ^ n) = k at hlow hhigh
    have hlow' : (2 : Rat) * num ≤ 2 * (k * (den * 2 ^ n)) + den * 2 ^ n := by exact_mod_cast hlow
    have hhigh' : (2 : Rat) * (k * (den * 2 ^ n)) ≤ 2 * num + den * 2 ^ n := by
      exact_mod_cast hhigh
    have hscaled : ((k : Rat) * 2 ^ n - num / den) * den = k * (den * 2 ^ n) - num := by
      field_simp
    rw [← mul_le_mul_iff_left₀ hd, ← abs_of_pos hd, ← abs_mul, abs_of_pos hd, hscaled, abs_le]
    constructor <;> linarith
  · obtain ⟨n, rfl⟩ := Int.exists_eq_neg_ofNat (not_le.1 he).le
    rw [if_neg he, neg_neg, Int.toNat_natCast, Nat.shiftLeft_eq, zpow_neg, zpow_natCast]
    have hpow : (0 : Rat) < 2 ^ n := by positivity
    obtain ⟨hlow, hhigh⟩ := nearestQuotient_near (num * 2 ^ n) hden
    generalize nearestQuotient (num * 2 ^ n) den = k at hlow hhigh
    have hlow' : (2 : Rat) * (num * 2 ^ n) ≤ 2 * (k * den) + den := by exact_mod_cast hlow
    have hhigh' : (2 : Rat) * (k * den) ≤ 2 * (num * 2 ^ n) + den := by exact_mod_cast hhigh
    have hscaled : ((k : Rat) * (2 ^ n)⁻¹ - num / den) * (den * 2 ^ n) =
        k * den - num * 2 ^ n := by
      field_simp
    have hunit : ((2 : Rat) ^ n)⁻¹ / 2 * (den * 2 ^ n) = den / 2 := by field_simp
    have hdp : (0 : Rat) < den * 2 ^ n := by positivity
    rw [← mul_le_mul_iff_left₀ hdp, ← abs_of_pos hdp, ← abs_mul, abs_of_pos hdp, hscaled, hunit,
      abs_le]
    constructor <;> linarith

namespace Binary

variable {f : Format} {x y : Binary f}

/-! ### Rounding -/

/-- Rounding delivers a number unless it goes all the way to the infinity. -/
theorem isFinite_round_iff (zeroSign : Bool) (q : Rat) :
    (round zeroSign q : Binary f).isFinite = true ↔ f.nearest q < f.infinityMagnitude := by
  have hbits := (Format.nearest_le (f := f) q).trans_lt infinityMagnitude_lt
  unfold isFinite
  rw [round_eq, magnitude_ofMagnitude _ hbits, decide_eq_true_iff]

/-- A positive number and the one that the word nearest to it stands for. -/
theorem value_ofMagnitude_nearest {q : Rat} (hq : 0 < q) (negative : Bool)
    (hfinite : f.nearest q < f.infinityMagnitude) :
    ∃ c : Nat, (ofMagnitude negative (f.nearest q) : Binary f).value =
        signedPower negative c (max f.minExponent (Int.log 2 q - f.fractionBits)) ∧
      |(c : Rat) * 2 ^ (max f.minExponent (Int.log 2 q - f.fractionBits)) - q| ≤
        2 ^ (max f.minExponent (Int.log 2 q - f.fractionBits)) / 2 := by
  have hnear := Format.nearest_of_pos (f := f) hq
  have hlow : (2 : Rat) ^ Int.log 2 q ≤ q := Int.zpow_log_le_self (by norm_num) hq
  have hhigh : q < 2 ^ (Int.log 2 q + 1) := Int.lt_zpow_succ_log_self (by norm_num) q
  generalize hexp : max f.minExponent (Int.log 2 q - f.fractionBits) = e at hnear ⊢
  have herror := nearestMultiple_near q.num.natAbs q.den_pos e
  rw [Format.natAbs_div_den hq] at herror
  -- rounding may carry into the next power of two, but not beyond it
  have hcarry : nearestMultiple q.num.natAbs q.den e ≤ 2 ^ (f.fractionBits + 1) := by
    refine nearestMultiple_le q.den_pos ?_
    rw [Format.natAbs_div_den hq]
    calc q ≤ 2 ^ (Int.log 2 q + 1) := hhigh.le
      _ ≤ 2 ^ ((f.fractionBits + 1 : Nat) + e : Int) :=
        zpow_le_zpow_right₀ (by norm_num) (by push_cast; omega)
      _ = ((2 ^ (f.fractionBits + 1) : Nat) : Rat) * 2 ^ e := by
        rw [zpow_add₀ (by norm_num), zpow_natCast]
        push_cast
        rfl
  generalize hmultiple : nearestMultiple q.num.natAbs q.den e = c at hnear herror hcarry
  obtain ⟨k, hk⟩ : ∃ k : Nat, e = f.minExponent + k :=
    Int.le.dest (hexp ▸ le_max_left _ _) |>.imp fun _ h => h.symm
  -- above the smallest exponent the spacing leaves room for all digits
  have hleading : k = 0 ∨ 2 ^ f.fractionBits ≤ c := by
    refine or_iff_not_imp_left.2 fun hk0 => ?_
    have hlog : Int.log 2 q = f.fractionBits + e := by omega
    have hpow : (0 : Rat) < 2 ^ e := by positivity
    have hq' : (2 : Rat) ^ f.fractionBits * 2 ^ e ≤ q := by
      rwa [hlog, zpow_add₀ (by norm_num), zpow_natCast] at hlow
    have hc : (2 : Rat) ^ f.fractionBits - 1 < c := by
      have herror' := (abs_le.1 herror).1
      refine lt_of_mul_lt_mul_right ?_ hpow.le
      linarith
    have hc' : (2 : Rat) ^ f.fractionBits < (c + 1 : Nat) := by push_cast; linarith
    exact Nat.lt_succ_iff.1 (by exact_mod_cast hc')
  have hshift : (e - f.minExponent).toNat = k := by omega
  rw [hshift, Nat.shiftLeft_eq] at hnear
  have hpacked : f.nearest q = c + k * 2 ^ f.fractionBits := by omega
  refine ⟨c, ?_, herror⟩
  rw [hpacked, value_ofMagnitude negative hcarry hleading (hpacked ▸ hfinite), hk]

/-- **A number is rounded by half a unit at most.** -/
theorem abs_value_round_sub_le {zeroSign : Bool} {q : Rat}
    (h : (round zeroSign q : Binary f).isFinite = true) (hq : q ≠ 0) :
    |(round zeroSign q : Binary f).value - q| ≤
      2 ^ (max f.minExponent (Int.log 2 |q| - f.fractionBits)) / 2 := by
  rw [isFinite_round_iff] at h
  rw [round_eq, if_neg hq]
  -- a negative number is rounded as its opposite is
  rcases lt_or_gt_of_ne hq with hneg | hpos
  · rw [abs_of_neg hneg, decide_eq_true hneg, ← Format.nearest_neg]
    rw [← Format.nearest_neg] at h
    obtain ⟨c, hvalue, herror⟩ := value_ofMagnitude_nearest (neg_pos.2 hneg) true h
    rw [hvalue, signedPower_true, ← abs_neg, neg_sub, sub_neg_eq_add, add_comm]
    rwa [sub_neg_eq_add] at herror
  · rw [abs_of_pos hpos, decide_eq_false hpos.not_gt]
    obtain ⟨c, hvalue, herror⟩ := value_ofMagnitude_nearest hpos false h
    rwa [hvalue, signedPower_false]

/-- **The error of rounding**: a fraction of the number, or half of the smallest positive one. -/
theorem value_round_near {zeroSign : Bool} {q : Rat}
    (h : (round zeroSign q : Binary f).isFinite = true) :
    |(round zeroSign q : Binary f).value - q| ≤
      |q| / 2 ^ (f.fractionBits + 1) + 2 ^ f.minExponent / 2 := by
  have hmin : (0 : Rat) < 2 ^ f.minExponent := by positivity
  by_cases hq : q = 0
  · have hzero : (round zeroSign 0 : Binary f).isZero = true := isZero_zero zeroSign
    rw [hq, value_of_isZero hzero, sub_zero, abs_zero, zero_div, zero_add]
    exact (half_pos hmin).le
  · refine (abs_value_round_sub_le h hq).trans ?_
    have hlow : (2 : Rat) ^ Int.log 2 |q| ≤ |q| :=
      Int.zpow_log_le_self (by norm_num) (abs_pos.2 hq)
    have hfraction : (2 : Rat) ^ (Int.log 2 |q| - f.fractionBits) / 2 ≤
        |q| / 2 ^ (f.fractionBits + 1) := by
      rw [zpow_sub₀ (by norm_num), zpow_natCast, div_div, ← pow_succ]
      gcongr
    -- the spacing is the smallest one or goes with the number, and either term alone is enough
    rcases max_choice f.minExponent (Int.log 2 |q| - f.fractionBits) with hmax | hmax <;> rw [hmax]
    · have : 0 ≤ |q| / 2 ^ (f.fractionBits + 1) := by positivity
      linarith
    · linarith

/-- A number that is below the range by two powers of two is rounded to a number. -/
theorem isFinite_round {zeroSign : Bool} {q : Rat} {k : Nat} (hq : |q| < 2 ^ k)
    (hk : (k : Int) + 2 < f.minExponent + f.fractionBits + (2 ^ f.exponentBits : Nat))
    (hmin : 3 < 2 ^ f.exponentBits) : (round zeroSign q : Binary f).isFinite = true := by
  rw [isFinite_round_iff]
  have hpositive : ∀ q : Rat, 0 < q → q < 2 ^ k → f.nearest q < f.infinityMagnitude := by
    intro q hpos hlt
    refine Format.nearest_lt_infinity hpos ?_
    have hlog : Int.log 2 q < k :=
      (Int.lt_zpow_iff_log_lt (by norm_num) hpos).1 (by rwa [zpow_natCast])
    omega
  -- the three signs of `q`, of which the positive one was just dealt with
  rcases lt_trichotomy q 0 with hneg | rfl | hpos
  · rw [← Format.nearest_neg]
    exact hpositive (-q) (neg_pos.2 hneg) (by rwa [← abs_of_neg hneg])
  · rw [Format.nearest_zero]
    have hinfinity := hpositive (1 / 2) (by norm_num) (lt_of_lt_of_le (by norm_num)
      (one_le_pow₀ (by norm_num)))
    omega
  · exact hpositive q hpos (by rwa [← abs_of_pos hpos])

/-! ### Signs -/

/-- The sign is that of the number, or the one given if it is zero. -/
theorem isNegative_round (zeroSign : Bool) (q : Rat) :
    (round zeroSign q : Binary f).isNegative = if q = 0 then zeroSign else decide (q < 0) := by
  have hbits := (Format.nearest_le (f := f) q).trans_lt infinityMagnitude_lt
  rw [round_eq, isNegative_ofMagnitude _ hbits]

/-- So a number that is not negative gets no sign. -/
theorem isNegative_round_of_nonneg {q : Rat} (h : 0 ≤ q) :
    (round false q : Binary f).isNegative = false := by
  rw [isNegative_round]
  split_ifs
  · rfl
  · exact decide_eq_false h.not_gt

end Binary

end GlBridge
