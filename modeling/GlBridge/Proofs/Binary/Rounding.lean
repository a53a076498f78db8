import GlBridge.Binary.Round
import Mathlib.Algebra.Order.Field.Power
import Mathlib.Data.Int.Log
import Mathlib.Data.Rat.Floor
import Mathlib.Tactic.FieldSimp
import Mathlib.Tactic.Linarith
import Mathlib.Tactic.Positivity
import Mathlib.Tactic.Ring

/-!
# Rounding leaves numbers of the format alone

`Format.nearest` gives the bits below the sign of the word that is nearest to an exact number. The
main statement is `Binary.nearest_unpack`: for a number that a word stands for, they are the bits of
that word. It rests on two facts. `floorLog2` is the floor of the binary logarithm
(`floorLog2_eq`), so the spacing chosen for a number of the format is its own; and the multiple
of a spacing that is nearest to one of its multiples is that one (`nearestMultiple_eq`).

Numbers far beyond the range are settled by their size alone (`Format.nearest_of_huge`,
`Format.nearest_of_tiny`).
-/

namespace GlBridge

/-! ### The binary logarithm -/

/-- Comparing with a power of two by shifting the one side or the other. -/
theorem shift_le_iff (num : Nat) {den : Nat} (hden : 0 < den) (g : Int) :
    (if 0 ≤ g then (den <<< g.toNat ≤ num : Bool)
      else (den ≤ num <<< (-g).toNat : Bool)) = true ↔ (2 : Rat) ^ g ≤ num / den := by
  have hd : (0 : Rat) < den := by exact_mod_cast hden
  rw [le_div_iff₀ hd]
  by_cases hg : 0 ≤ g
  · obtain ⟨n, rfl⟩ := Int.eq_ofNat_of_zero_le hg
    rw [if_pos hg, decide_eq_true_iff, Int.toNat_natCast, Nat.shiftLeft_eq, zpow_natCast]
    constructor
    · intro h
      calc (2 : Rat) ^ n * den = ((den * 2 ^ n : Nat) : Rat) := by push_cast; ring
        _ ≤ num := by exact_mod_cast h
    · intro h
      have h' : ((den * 2 ^ n : Nat) : Rat) ≤ num := by push_cast; linarith
      exact_mod_cast h'
  · -- the other side was shifted, which is to divide by the power
    obtain ⟨n, rfl⟩ := Int.exists_eq_neg_ofNat (not_le.1 hg).le
    rw [if_neg hg, decide_eq_true_iff, neg_neg, Int.toNat_natCast, Nat.shiftLeft_eq, zpow_neg,
      zpow_natCast, inv_mul_le_iff₀ (by positivity)]
    constructor
    · intro h
      calc (den : Rat) ≤ ((num * 2 ^ n : Nat) : Rat) := by exact_mod_cast h
        _ = 2 ^ n * num := by push_cast; ring
    · intro h
      have h' : (den : Rat) ≤ ((num * 2 ^ n : Nat) : Rat) := by push_cast; linarith
      exact_mod_cast h'

/-- The logarithms of numerator and denominator leave two candidates. -/
theorem div_mem_of_log2 {num den : Nat} (hnum : 0 < num) (hden : 0 < den) :
    (2 : Rat) ^ ((num.log2 : Int) - den.log2 - 1) ≤ num / den ∧
      (num / den : Rat) < 2 ^ ((num.log2 : Int) - den.log2 + 1) := by
  have hd : (0 : Rat) < den := by exact_mod_cast hden
  have hn₁ : (2 : Rat) ^ num.log2 ≤ num := by exact_mod_cast Nat.log2_self_le hnum.ne'
  have hn₂ : (num : Rat) < 2 ^ (num.log2 + 1) := by exact_mod_cast Nat.lt_log2_self
  have hd₁ : (2 : Rat) ^ den.log2 ≤ den := by exact_mod_cast Nat.log2_self_le hden.ne'
  have hd₂ : (den : Rat) < 2 ^ (den.log2 + 1) := by exact_mod_cast Nat.lt_log2_self
  -- the least numerator over the greatest denominator, and the other way about
  constructor
  · rw [le_div_iff₀ hd]
    calc (2 : Rat) ^ ((num.log2 : Int) - den.log2 - 1) * den
        ≤ 2 ^ ((num.log2 : Int) - den.log2 - 1) * 2 ^ (den.log2 + 1) := by gcongr
      _ = 2 ^ num.log2 := by
        rw [← zpow_natCast (2 : Rat) (den.log2 + 1), ← zpow_add₀ (by norm_num),
          ← zpow_natCast (2 : Rat) num.log2]
        congr 1
        push_cast
        ring
      _ ≤ num := hn₁
  · rw [div_lt_iff₀ hd]
    calc (num : Rat) < 2 ^ (num.log2 + 1) := hn₂
      _ = 2 ^ ((num.log2 : Int) - den.log2 + 1) * 2 ^ den.log2 := by
        rw [← zpow_natCast (2 : Rat) den.log2, ← zpow_add₀ (by norm_num),
          ← zpow_natCast (2 : Rat) (num.log2 + 1)]
        congr 1
        push_cast
        ring
      _ ≤ 2 ^ ((num.log2 : Int) - den.log2 + 1) * den := by gcongr

/-- A number between two successive powers of two has this logarithm. -/
theorem log_eq_of_mem {q : Rat} {k : Int} (hlow : (2 : Rat) ^ k ≤ q) (hhigh : q < 2 ^ (k + 1)) :
    Int.log 2 q = k := by
  have hq : 0 < q := lt_of_lt_of_le (by positivity) hlow
  have h₁ : k ≤ Int.log 2 q := (Int.zpow_le_iff_le_log (by norm_num) hq).1 hlow
  have h₂ : Int.log 2 q < k + 1 := (Int.lt_zpow_iff_log_lt (by norm_num) hq).1 hhigh
  omega

/-- **`floorLog2` is the floor of the binary logarithm.** -/
theorem floorLog2_eq {num den : Nat} (hnum : 0 < num) (hden : 0 < den) :
    floorLog2 num den = Int.log 2 (num / den : Rat) := by
  obtain ⟨hlow, hhigh⟩ := div_mem_of_log2 hnum hden
  have hshift := shift_le_iff num hden ((num.log2 : Int) - den.log2)
  rw [floorLog2]
  cases h : (if 0 ≤ (num.log2 : Int) - den.log2 then
      (den <<< ((num.log2 : Int) - den.log2).toNat ≤ num : Bool)
    else (den ≤ num <<< (-((num.log2 : Int) - den.log2)).toNat : Bool)) with
  | true => exact (log_eq_of_mem (hshift.1 h) hhigh).symm
  | false =>
    -- the greater candidate is refused, and one less is left
    have hnot : (num / den : Rat) < 2 ^ ((num.log2 : Int) - den.log2) :=
      not_le.1 fun hle => by rw [hshift.2 hle] at h; cases h
    refine (log_eq_of_mem hlow ?_).symm
    rwa [Int.sub_add_cancel]

/-! ### Nearest multiples -/

/-- A quotient without a rest is not rounded, ... -/
theorem nearestQuotient_mul (m : Nat) {den : Nat} (hden : 0 < den) :
    nearestQuotient (m * den) den = m := by
  unfold nearestQuotient
  simp only [Nat.mul_mod_left, Nat.mul_div_cancel m hden, Nat.mul_zero, if_pos hden]

/-- ... and one of less than half is rounded away. -/
theorem nearestQuotient_of_lt {num den : Nat} (h : 2 * num < den) :
    nearestQuotient num den = 0 := by
  have hlt : num < den := by omega
  unfold nearestQuotient
  simp only [Nat.div_eq_of_lt hlt, Nat.mod_eq_of_lt hlt, if_pos h]

/-- Rounding does not go beyond an integer that is not less. -/
theorem nearestQuotient_le {num den k : Nat} (hden : 0 < den) (h : num ≤ k * den) :
    nearestQuotient num den ≤ k := by
  have hsplit := Nat.div_add_mod num den
  have hfloor : num / den ≤ k := Nat.div_le_of_le_mul (by rwa [Nat.mul_comm])
  unfold nearestQuotient
  rcases Nat.lt_or_eq_of_le hfloor with hlt | rfl
  · dsimp only
    split_ifs <;> omega
  · -- nothing is left over, so there is nothing to round up
    have hrest : num % den = 0 := by
      rw [Nat.mul_comm] at h
      omega
    simp only [hrest, Nat.mul_zero, if_pos hden, le_refl]

/-- **A multiple is the nearest one to itself.** -/
theorem nearestMultiple_eq {num den m : Nat} {e : Int} (hden : 0 < den)
    (h : (num / den : Rat) = m * 2 ^ e) : nearestMultiple num den e = m := by
  have hd : (den : Rat) ≠ 0 := by exact_mod_cast hden.ne'
  rw [div_eq_iff hd] at h
  unfold nearestMultiple
  -- the spacing multiplies the denominator or, where it is a fraction, the numerator
  by_cases he : 0 ≤ e
  · obtain ⟨n, rfl⟩ := Int.eq_ofNat_of_zero_le he
    have hnum : num = m * (den * 2 ^ n) := by
      rw [zpow_natCast] at h
      have h' : (num : Rat) = ((m * (den * 2 ^ n) : Nat) : Rat) := by rw [h]; push_cast; ring
      exact_mod_cast h'
    rw [if_pos he, Int.toNat_natCast, Nat.shiftLeft_eq, hnum]
    exact nearestQuotient_mul m (by positivity)
  · obtain ⟨n, rfl⟩ := Int.exists_eq_neg_ofNat (not_le.1 he).le
    have hnum : num * 2 ^ n = m * den := by
      rw [zpow_neg, zpow_natCast] at h
      have h' : ((num * 2 ^ n : Nat) : Rat) = ((m * den : Nat) : Rat) := by
        push_cast
        rw [h]
        field_simp
      exact_mod_cast h'
    rw [if_neg he, neg_neg, Int.toNat_natCast, Nat.shiftLeft_eq, hnum]
    exact nearestQuotient_mul m hden

/-- What lies below a multiple is not rounded beyond it. -/
theorem nearestMultiple_le {num den k : Nat} {e : Int} (hden : 0 < den)
    (h : (num / den : Rat) ≤ k * 2 ^ e) : nearestMultiple num den e ≤ k := by
  have hd : (0 : Rat) < den := by exact_mod_cast hden
  rw [div_le_iff₀ hd] at h
  unfold nearestMultiple
  -- as above, the spacing goes to one side of the quotient
  by_cases he : 0 ≤ e
  · obtain ⟨n, rfl⟩ := Int.eq_ofNat_of_zero_le he
    rw [if_pos he, Int.toNat_natCast, Nat.shiftLeft_eq]
    rw [zpow_natCast] at h
    refine nearestQuotient_le (by positivity) ?_
    have h' : (num : Rat) ≤ ((k * (den * 2 ^ n) : Nat) : Rat) := by push_cast; linarith
    exact_mod_cast h'
  · obtain ⟨n, rfl⟩ := Int.exists_eq_neg_ofNat (not_le.1 he).le
    rw [if_neg he, neg_neg, Int.toNat_natCast, Nat.shiftLeft_eq]
    rw [zpow_neg, zpow_natCast] at h
    refine nearestQuotient_le hden ?_
    have hpow : (0 : Rat) < 2 ^ n := by positivity
    have h' : ((num * 2 ^ n : Nat) : Rat) ≤ ((k * den : Nat) : Rat) := by
      push_cast
      calc (num : Rat) * 2 ^ n ≤ k * (2 ^ n)⁻¹ * den * 2 ^ n := by gcongr
        _ = k * den := by field_simp
    exact_mod_cast h'

/-- Less than half of a unit counts as none. -/
theorem nearestMultiple_of_lt {num den : Nat} {e : Int} (hden : 0 < den)
    (h : 2 * (num / den : Rat) < 2 ^ e) : nearestMultiple num den e = 0 := by
  have hd : (0 : Rat) < den := by exact_mod_cast hden
  rw [← mul_div_assoc, div_lt_iff₀ hd] at h
  unfold nearestMultiple
  -- and once more
  by_cases he : 0 ≤ e
  · obtain ⟨n, rfl⟩ := Int.eq_ofNat_of_zero_le he
    rw [if_pos he, Int.toNat_natCast, Nat.shiftLeft_eq]
    rw [zpow_natCast] at h
    refine nearestQuotient_of_lt ?_
    have h' : ((2 * num : Nat) : Rat) < ((den * 2 ^ n : Nat) : Rat) := by push_cast; linarith
    exact_mod_cast h'
  · obtain ⟨n, rfl⟩ := Int.exists_eq_neg_ofNat (not_le.1 he).le
    rw [if_neg he, neg_neg, Int.toNat_natCast, Nat.shiftLeft_eq]
    rw [zpow_neg, zpow_natCast, lt_inv_mul_iff₀ (by positivity)] at h
    refine nearestQuotient_of_lt ?_
    have h' : ((2 * (num * 2 ^ n) : Nat) : Rat) < (den : Rat) := by push_cast; linarith
    exact_mod_cast h'

/-! ### The word nearest to an exact number -/

namespace Format

/-- The bits below the sign of the word that is nearest to a number, whatever its sign. -/
def nearest (f : Format) (q : Rat) : Nat := f.roundMagnitude q.num.natAbs q.den

variable {f : Format}

@[simp] theorem nearest_zero : f.nearest 0 = 0 := rfl

/-- A positive number is the quotient of its parts. -/
theorem natAbs_div_den {q : Rat} (h : 0 < q) : (q.num.natAbs / q.den : Rat) = q := by
  have hnum : ((q.num.natAbs : Int) : Rat) = q.num := by
    rw [Int.natAbs_of_nonneg (Rat.num_nonneg.2 h.le)]
  rw [← Int.cast_natCast q.num.natAbs, hnum, Rat.num_div_den]

/-- The bits below the sign do not depend on the sign. -/
theorem nearest_neg (q : Rat) : f.nearest (-q) = f.nearest q := by
  rw [nearest, nearest, Rat.num_neg_eq_neg_num, Rat.den_neg_eq_den, Int.natAbs_neg]

/-- Rounding goes no further than to the infinity. -/
theorem nearest_le (q : Rat) : f.nearest q ≤ f.infinityMagnitude := by
  unfold nearest roundMagnitude
  split
  · exact Nat.zero_le _
  · exact Nat.min_le_left _ _

/-- How the word nearest to a positive number is put together. -/
theorem nearest_of_pos {q : Rat} (h : 0 < q) :
    f.nearest q = min f.infinityMagnitude
      (nearestMultiple q.num.natAbs q.den (max f.minExponent (Int.log 2 q - f.fractionBits)) +
        (max f.minExponent (Int.log 2 q - f.fractionBits) - f.minExponent).toNat <<<
          f.fractionBits) := by
  have hnum : 0 < q.num.natAbs := Int.natAbs_pos.2 (Rat.num_pos.2 h).ne'
  -- the spacing is chosen by the logarithm, which is the true one
  unfold nearest roundMagnitude spacing
  rw [if_neg hnum.ne', floorLog2_eq hnum q.den_pos, natAbs_div_den h]

/-- **A number of the format is the nearest to itself**: one with few enough digits that
uses the spacing around it. -/
theorem nearest_eq {m : Nat} {e : Int} (hm : 0 < m) (hmin : f.minExponent ≤ e)
    (hdigits : m.log2 ≤ f.fractionBits)
    (hspacing : e = f.minExponent ∨ m.log2 = f.fractionBits) :
    f.nearest (m * 2 ^ e) =
      min f.infinityMagnitude (m + (e - f.minExponent).toNat <<< f.fractionBits) := by
  have hq : (0 : Rat) < m * 2 ^ e := by positivity
  -- `m` lies between powers of two, and the number between these times `2 ^ e`
  have hlog : Int.log 2 ((m : Rat) * 2 ^ e) = m.log2 + e := by
    have hlow : (2 : Rat) ^ m.log2 ≤ m := by exact_mod_cast Nat.log2_self_le hm.ne'
    have hhigh : (m : Rat) < 2 ^ (m.log2 + 1) := by exact_mod_cast Nat.lt_log2_self
    refine log_eq_of_mem ?_ ?_
    · rw [zpow_add₀ (by norm_num), zpow_natCast]
      gcongr
    · rw [show (m.log2 : Int) + e + 1 = ((m.log2 + 1 : Nat) : Int) + e by push_cast; ring,
        zpow_add₀ (by norm_num), zpow_natCast]
      gcongr
  have hspace : max f.minExponent ((m.log2 : Int) + e - f.fractionBits) = e := by
    rcases hspacing with h | h <;> omega
  rw [nearest_of_pos hq, hlog, hspace, nearestMultiple_eq (Rat.den_pos _) (natAbs_div_den hq)]

/-- **Far above the range** the logarithm alone makes an infinity. -/
theorem nearest_of_huge {q : Rat} (h : 0 < q)
    (hlog : f.minExponent + f.fractionBits + (2 ^ f.exponentBits : Nat) ≤ Int.log 2 q) :
    f.nearest q = f.infinityMagnitude := by
  -- the exponent field alone is past that of an infinity
  have hspace : 2 ^ f.exponentBits ≤
      (max f.minExponent (Int.log 2 q - f.fractionBits) - f.minExponent).toNat := by omega
  rw [nearest_of_pos h, Nat.min_eq_left]
  calc f.infinityMagnitude ≤ 2 ^ f.exponentBits * 2 ^ f.fractionBits := by
        unfold infinityMagnitude
        rw [Nat.shiftLeft_eq, Nat.shiftLeft_eq, Nat.one_mul]
        exact Nat.mul_le_mul_right _ (Nat.sub_le _ _)
    _ ≤ (max f.minExponent (Int.log 2 q - f.fractionBits) - f.minExponent).toNat <<<
          f.fractionBits := by
        rw [Nat.shiftLeft_eq]
        exact Nat.mul_le_mul_right _ hspace
    _ ≤ _ := Nat.le_add_left _ _

/-- **Within the range** by a power of two, nothing is rounded to an infinity. -/
theorem nearest_lt_infinity {q : Rat} (h : 0 < q)
    (hspace : (max f.minExponent (Int.log 2 q - f.fractionBits) - f.minExponent).toNat + 3 <
      2 ^ f.exponentBits) : f.nearest q < f.infinityMagnitude := by
  have hbelow : q < 2 ^ (Int.log 2 q + 1) := Int.lt_zpow_succ_log_self (by norm_num) q
  rw [nearest_of_pos h]
  generalize hexp : max f.minExponent (Int.log 2 q - f.fractionBits) = e at hspace
  -- the spacing leaves room for one bit more than the fraction has, the leading one
  have hmultiple : nearestMultiple q.num.natAbs q.den e ≤ 2 ^ (f.fractionBits + 1) := by
    refine nearestMultiple_le q.den_pos ?_
    rw [natAbs_div_den h]
    calc q ≤ 2 ^ (Int.log 2 q + 1) := hbelow.le
      _ ≤ 2 ^ ((f.fractionBits + 1 : Nat) + e : Int) :=
        zpow_le_zpow_right₀ (by norm_num) (by push_cast; omega)
      _ = ((2 ^ (f.fractionBits + 1) : Nat) : Rat) * 2 ^ e := by
        rw [zpow_add₀ (by norm_num), zpow_natCast]
        push_cast
        rfl
  refine lt_of_le_of_lt (Nat.min_le_right _ _) ?_
  rw [infinityMagnitude, Nat.shiftLeft_eq, Nat.shiftLeft_eq, Nat.shiftLeft_eq, Nat.one_mul]
  calc nearestMultiple q.num.natAbs q.den e + (e - f.minExponent).toNat * 2 ^ f.fractionBits
      ≤ (2 + (e - f.minExponent).toNat) * 2 ^ f.fractionBits := by
        rw [Nat.pow_succ] at hmultiple
        rw [Nat.add_mul]
        omega
    _ < (2 ^ f.exponentBits - 1) * 2 ^ f.fractionBits :=
        Nat.mul_lt_mul_of_pos_right (by omega) (by positivity)

/-- **Far below the range** there is only zero. -/
theorem nearest_of_tiny {q : Rat} (h : 0 < q) (hsmall : 2 * q < 2 ^ f.minExponent) :
    f.nearest q = 0 := by
  have hlog : Int.log 2 q < f.minExponent := by
    refine (Int.lt_zpow_iff_log_lt (by norm_num) h).1 (lt_of_le_of_lt ?_ hsmall)
    linarith
  -- the spacing cannot get smaller, and the number is less than half of it
  have hspace : max f.minExponent (Int.log 2 q - f.fractionBits) = f.minExponent := by omega
  have hnone : 2 * (q.num.natAbs / q.den : Rat) < 2 ^ f.minExponent := by
    rwa [natAbs_div_den h]
  rw [nearest_of_pos h, hspace, nearestMultiple_of_lt q.den_pos hnone, sub_self, Int.toNat_zero,
    Nat.zero_shiftLeft, Nat.add_zero, Nat.min_zero]

end Format

namespace Binary

variable {f : Format}

/-! ### Words and the bits below their sign -/

/-- The bits of an infinity leave that of the sign alone. -/
theorem infinityMagnitude_lt : f.infinityMagnitude < 1 <<< f.magnitudeBits := by
  unfold Format.infinityMagnitude Format.magnitudeBits
  rw [Nat.shiftLeft_eq, Nat.shiftLeft_eq, Nat.shiftLeft_eq, Nat.one_mul, Nat.one_mul, Nat.pow_add]
  exact Nat.mul_lt_mul_of_pos_right (Nat.sub_lt (by positivity) Nat.one_pos) (by positivity)

/-- The sign takes up one bit. -/
theorem two_pow_width : 2 ^ f.width = 2 * 1 <<< f.magnitudeBits := by
  rw [Nat.shiftLeft_eq, Nat.one_mul, Format.width, Nat.pow_add, Nat.pow_one]

/-- A word as a number: the bits below the sign, and the sign bit on top. -/
theorem toNat_bits_ofMagnitude (negative : Bool) {n : Nat} (h : n < 1 <<< f.magnitudeBits) :
    (ofMagnitude negative n : Binary f).bits.toNat =
      n + if negative then 1 <<< f.magnitudeBits else 0 := by
  have hwidth := two_pow_width (f := f)
  unfold ofMagnitude
  rw [BitVec.toNat_ofNat, Nat.mod_eq_of_lt]
  cases negative <;> simp only [if_true, Bool.false_eq_true, if_false] <;> omega

/-- What was packed below the sign is there, ... -/
theorem magnitude_ofMagnitude (negative : Bool) {n : Nat} (h : n < 1 <<< f.magnitudeBits) :
    (ofMagnitude negative n : Binary f).magnitude = n := by
  unfold magnitude
  rw [toNat_bits_ofMagnitude negative h]
  cases negative with
  | false => exact Nat.mod_eq_of_lt h
  | true => rw [if_pos rfl, Nat.add_mod_right, Nat.mod_eq_of_lt h]

/-- ... and a word is put together again from its two parts. -/
theorem ofMagnitude_magnitude (x : Binary f) : ofMagnitude x.isNegative x.magnitude = x := by
  have hpos : 0 < 1 <<< f.magnitudeBits := by rw [Nat.shiftLeft_eq]; positivity
  have hwidth := two_pow_width (f := f)
  have hbits := x.bits.isLt
  have hmag : x.magnitude < 1 <<< f.magnitudeBits := Nat.mod_lt _ hpos
  ext1
  apply BitVec.eq_of_toNat_eq
  rw [toNat_bits_ofMagnitude _ hmag, magnitude, isNegative]
  -- the sign bit is set exactly for words from half of the range on
  by_cases h : 1 <<< f.magnitudeBits ≤ x.bits.toNat
  · rw [if_pos (decide_eq_true h), Nat.mod_eq_sub_mod h, Nat.mod_eq_of_lt (by omega)]
    omega
  · rw [if_neg (by simpa using h), Nat.mod_eq_of_lt (by omega)]
    rfl

/-! ### Numbers that a word stands for -/

/-- The cases of a word that is a number: it has the smallest exponent field, or a leading bit. -/
theorem unpack_eq_finite {x : Binary f} {negative : Bool} {m : Nat} {e : Int}
    (h : x.unpack = .finite negative m e) :
    x.isFinite = true ∧ negative = x.isNegative ∧
      (m = x.magnitude ∧ m < 2 ^ f.fractionBits ∧ e = f.minExponent ∨
        ∃ field, x.magnitude = m + field * 2 ^ f.fractionBits ∧ 2 ^ f.fractionBits ≤ m ∧
          m < 2 ^ (f.fractionBits + 1) ∧ e = f.minExponent + field) := by
  have hpos : 0 < 2 ^ f.fractionBits := by positivity
  have hsplit := Nat.div_add_mod x.magnitude (2 ^ f.fractionBits)
  have hlow := Nat.mod_lt x.magnitude hpos
  unfold unpack at h
  rw [Nat.shiftRight_eq_div_pow, Nat.shiftLeft_eq, Nat.one_mul] at h
  by_cases hnan : x.isNaN = true
  · rw [if_pos hnan] at h
    cases h
  by_cases hinf : x.isInfinite = true
  · rw [if_neg hnan, if_pos hinf] at h
    cases h
  rw [if_neg hnan, if_neg hinf] at h
  -- what is neither a NaN nor an infinity is a number
  have hfinite : x.isFinite = true := by
    simp only [isNaN, isInfinite, decide_eq_true_iff, beq_iff_eq] at hnan hinf
    simp only [isFinite, decide_eq_true_iff]
    omega
  by_cases hfield : x.magnitude / 2 ^ f.fractionBits = 0
  · -- the field is zero: no leading bit is implied
    rw [if_pos hfield] at h
    obtain ⟨rfl, rfl, rfl⟩ := Unpacked.finite.inj h
    rw [hfield, Nat.mul_zero, Nat.zero_add] at hsplit
    exact ⟨hfinite, rfl, .inl ⟨hsplit, hlow, rfl⟩⟩
  · rw [if_neg hfield] at h
    obtain ⟨rfl, rfl, rfl⟩ := Unpacked.finite.inj h
    refine ⟨hfinite, rfl, .inr ⟨x.magnitude / 2 ^ f.fractionBits - 1, ?_, by omega, ?_, rfl⟩⟩
    · conv => lhs; rw [← hsplit, ← Nat.sub_add_cancel (Nat.pos_of_ne_zero hfield)]
      ring
    · rw [Nat.pow_succ]
      omega

/-- A word that is a number can be unpacked, with its own sign. -/
theorem unpack_of_isFinite {x : Binary f} (h : x.isFinite = true) :
    ∃ m e, x.unpack = .finite x.isNegative m e := by
  have hlt : x.magnitude < f.infinityMagnitude := of_decide_eq_true h
  have hnan : ¬x.isNaN = true := by
    simp only [isNaN, decide_eq_true_iff]
    omega
  have hinf : ¬x.isInfinite = true := by
    simp only [isInfinite, beq_iff_eq]
    omega
  unfold unpack
  rw [if_neg hnan, if_neg hinf]
  -- with a leading bit or without one
  by_cases hfield : x.magnitude >>> f.fractionBits = 0
  · rw [if_pos hfield]
    exact ⟨_, _, rfl⟩
  · rw [if_neg hfield]
    exact ⟨_, _, rfl⟩

/-- **Rounding leaves the numbers of the format alone.** -/
theorem nearest_unpack {x : Binary f} {negative : Bool} {m : Nat} {e : Int}
    (h : x.unpack = .finite negative m e) : f.nearest (m * 2 ^ e) = x.magnitude := by
  obtain ⟨hfinite, -, hm⟩ := unpack_eq_finite h
  have hbelow : x.magnitude ≤ f.infinityMagnitude := (of_decide_eq_true hfinite).le
  rcases hm with ⟨rfl, hlt, rfl⟩ | ⟨field, hmag, hge, hlt, rfl⟩
  · -- the smallest spacing, with any number of digits
    rcases Nat.eq_zero_or_pos x.magnitude with h0 | hpos
    · rw [h0, Nat.cast_zero, zero_mul, Format.nearest_zero]
    · have hlog : x.magnitude.log2 < f.fractionBits := (Nat.log2_lt hpos.ne').2 hlt
      rw [Format.nearest_eq hpos le_rfl hlog.le (.inl rfl), sub_self, Int.toNat_zero,
        Nat.zero_shiftLeft, Nat.add_zero, Nat.min_eq_right hbelow]
  · -- as many digits as there can be, with the spacing that goes with them
    have hpos : 0 < m := lt_of_lt_of_le (by positivity) hge
    have hlog : m.log2 = f.fractionBits := (Nat.log2_eq_iff hpos.ne').2 ⟨hge, hlt⟩
    rw [Format.nearest_eq hpos (by omega) hlog.le (.inr hlog), add_sub_cancel_left,
      Int.toNat_natCast, Nat.shiftLeft_eq, ← hmag, Nat.min_eq_right hbelow]

end Binary

end GlBridge
