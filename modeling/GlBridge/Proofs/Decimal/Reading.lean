import GlBridge.Decimal.Shortest
import GlBridge.Proofs.Binary.Rounding

/-!
# Decimals that read back

What a decimal is read as depends on its sign and its exact number only
(`Decimal.toDouble_eq`): two spellings of one number are read alike, and the shortcuts that
`Decimal.toDouble` takes for hopeless exponents lead to the same place.

`Double.toDouble_shortest` says of every finite number that its shortest decimal reads back as the
number, sign of zero included. The search only takes decimals that do, and should it find none,
there is the exact one, which does because rounding leaves numbers of the format alone.
-/

namespace GlBridge

/-- Rounding splits into the sign and the bits below it. -/
theorem Binary.round_eq {f : Format} (zeroSign : Bool) (q : Rat) :
    (Binary.round zeroSign q : Binary f) =
      .ofMagnitude (if q = 0 then zeroSign else decide (q < 0)) (f.nearest q) := by
  unfold Binary.round
  by_cases h : q = 0
  · rw [if_pos h, if_pos h, h, Format.nearest_zero]
    rfl
  · rw [if_neg h, if_neg h]
    rfl

namespace Decimal

/-- The size of a decimal as an exact number. -/
def magnitude (d : Decimal) : Rat := d.coefficient * 10 ^ d.exponent

/-- It is positive unless the coefficient is zero, ... -/
theorem magnitude_pos {d : Decimal} (h : d.coefficient ≠ 0) : 0 < d.magnitude := by
  have hc : (0 : Rat) < d.coefficient := by exact_mod_cast Nat.pos_of_ne_zero h
  unfold magnitude
  positivity

/-- ... and then it is zero, whatever the exponent. -/
theorem magnitude_of_zero {d : Decimal} (h : d.coefficient = 0) : d.magnitude = 0 := by
  rw [magnitude, h, Nat.cast_zero, zero_mul]

theorem two_zpow_three_mul (e : Int) : (2 : Rat) ^ (3 * e) = 8 ^ e := by
  rw [zpow_mul]
  norm_num

/-- Powers of ten and of eight compare one way from zero on. -/
theorem eight_zpow_le {e : Int} (h : 0 ≤ e) : (8 : Rat) ^ e ≤ 10 ^ e := by
  obtain ⟨n, rfl⟩ := Int.eq_ofNat_of_zero_le h
  rw [zpow_natCast, zpow_natCast]
  gcongr
  norm_num

/-- And below zero the other way about. -/
theorem ten_zpow_le {e : Int} (h : e ≤ 0) : (10 : Rat) ^ e ≤ 8 ^ e := by
  obtain ⟨n, rfl⟩ := Int.exists_eq_neg_ofNat h
  rw [zpow_neg, zpow_neg, zpow_natCast, zpow_natCast]
  gcongr
  norm_num

/-- A huge decimal is beyond the largest double. -/
theorem nearest_of_isHuge {d : Decimal} (h : d.isHuge = true) :
    Format.double.nearest d.magnitude = Format.double.infinityMagnitude := by
  simp only [isHuge, Bool.and_eq_true, bne_iff_ne, decide_eq_true_iff] at h
  obtain ⟨⟨hc, he⟩, hlog⟩ := h
  have hpos := magnitude_pos hc
  -- a power of ten is at least that of eight
  have hcoeff : (2 : Rat) ^ d.coefficient.log2 ≤ d.coefficient := by
    exact_mod_cast Nat.log2_self_le hc
  have hle : (2 : Rat) ^ (2048 : Int) ≤ d.magnitude :=
    calc (2 : Rat) ^ (2048 : Int) ≤ 2 ^ ((d.coefficient.log2 : Int) + 3 * d.exponent) := by
          gcongr
          norm_num
      _ = 2 ^ d.coefficient.log2 * 8 ^ d.exponent := by
          rw [zpow_add₀ (by norm_num), zpow_natCast, two_zpow_three_mul]
      _ ≤ d.magnitude := by
          unfold magnitude
          gcongr
          exact eight_zpow_le he
  -- two to this power is beyond the range already
  have hlarge := (Int.zpow_le_iff_le_log (by norm_num) hpos).1 hle
  exact Format.nearest_of_huge hpos (le_trans (by decide) hlarge)

/-- A tiny decimal is far below the smallest double. -/
theorem nearest_of_isTiny {d : Decimal} (h : d.isTiny = true) :
    Format.double.nearest d.magnitude = 0 := by
  simp only [isTiny, Bool.or_eq_true, beq_iff_eq, Bool.and_eq_true, decide_eq_true_iff] at h
  rcases h with h | ⟨he, hlog⟩
  · rw [magnitude_of_zero h, Format.nearest_zero]
  by_cases hc : d.coefficient = 0
  · rw [magnitude_of_zero hc, Format.nearest_zero]
  -- a negative power of ten is at most that of eight, whose binary logarithm is known
  have hcoeff : (d.coefficient : Rat) < 2 ^ (d.coefficient.log2 + 1) := by
    exact_mod_cast Nat.lt_log2_self
  have hlt : d.magnitude < 2 ^ (-2048 : Int) :=
    calc d.magnitude < 2 ^ (d.coefficient.log2 + 1) * 8 ^ d.exponent := by
          unfold magnitude
          exact mul_lt_mul hcoeff (ten_zpow_le he) (by positivity) (by positivity)
      _ = 2 ^ (((d.coefficient.log2 + 1 : Nat) : Int) + 3 * d.exponent) := by
          rw [zpow_add₀ (by norm_num), zpow_natCast, two_zpow_three_mul]
      _ ≤ 2 ^ (-2048 : Int) := by
          gcongr
          · norm_num
          · push_cast
            exact hlog
  refine Format.nearest_of_tiny (magnitude_pos hc) ?_
  calc 2 * d.magnitude < 2 ^ (1 : Int) * 2 ^ (-2048 : Int) := by
        rw [zpow_one]
        linarith
    _ = 2 ^ (-2047 : Int) := by
        rw [← zpow_add₀ (by norm_num)]
        norm_num
    _ ≤ 2 ^ Format.double.minExponent := by
        gcongr
        · norm_num
        · decide

/-- **A decimal is read by its sign and its exact number.** -/
theorem toDouble_eq (d : Decimal) :
    d.toDouble = .ofMagnitude d.negative (Format.double.nearest d.magnitude) := by
  unfold toDouble
  by_cases hhuge : d.isHuge = true
  · rw [if_pos hhuge, nearest_of_isHuge hhuge]
    rfl
  by_cases htiny : d.isTiny = true
  · rw [if_neg hhuge, if_pos htiny, nearest_of_isTiny htiny]
    rfl
  rw [if_neg hhuge, if_neg htiny, Binary.round_eq]
  have hc : d.coefficient ≠ 0 := by
    intro h
    simp [isTiny, h] at htiny
  have hpos := magnitude_pos hc
  -- a number other than zero has the sign of the decimal
  have hrat : d.toRat = (if d.negative then -1 else 1) * d.magnitude := mul_assoc _ _ _
  rw [hrat]
  cases d.negative with
  | true =>
    have hneg : -d.magnitude < 0 := neg_neg_of_pos hpos
    rw [if_pos rfl, neg_one_mul, if_neg hneg.ne, Format.nearest_neg, decide_eq_true hneg]
  | false =>
    rw [if_neg Bool.false_ne_true, one_mul, if_neg hpos.ne', decide_eq_false hpos.not_gt]

end Decimal

namespace Double

/-! ### The search for the shortest decimal -/

/-- A neighbour is taken only if it reads back, ... -/
theorem toDouble_of_neighbour {x : Double} {q : Rat} {e : Int} {c : Nat}
    (h : neighbour? x q e = some c) : (Decimal.mk false c e).toDouble = x := by
  unfold neighbour? at h
  simp only at h
  split at h
  · rename_i hfirst
    exact Option.some.inj h ▸ of_decide_eq_true hfirst
  · split at h
    · rename_i hsecond
      exact Option.some.inj h ▸ of_decide_eq_true hsecond
    · cases h

/-- ... so whatever the search finds does. -/
theorem toDouble_of_shortestOn {x : Double} {q : Rat} {leading : Int} {digits : List Nat}
    {d : Decimal} (h : shortestOn? x q leading digits = some d) : d.toDouble = x := by
  -- on the numbers of digits that are tried
  induction digits with
  | nil => cases h
  | cons n more ih =>
    unfold shortestOn? at h
    split at h
    · rename_i c hc
      exact Option.some.inj h ▸ toDouble_of_neighbour hc
    · exact ih h

/-- The exact decimal is the number itself. -/
theorem magnitude_exactDecimal (m : Nat) (e : Int) :
    (exactDecimal m e).magnitude = m * 2 ^ e := by
  unfold exactDecimal
  by_cases he : 0 ≤ e
  · obtain ⟨n, rfl⟩ := Int.eq_ofNat_of_zero_le he
    rw [if_pos he, Decimal.magnitude, Int.toNat_natCast, Nat.shiftLeft_eq, zpow_zero, mul_one,
      zpow_natCast]
    push_cast
    rfl
  · -- `2 ^ -n` is `5 ^ n * 10 ^ -n`
    obtain ⟨n, rfl⟩ := Int.exists_eq_neg_ofNat (not_le.1 he).le
    rw [if_neg he, Decimal.magnitude, neg_neg, Int.toNat_natCast]
    simp only [zpow_neg, zpow_natCast, Nat.cast_mul]
    have hpow : ((Nat.pow 5 n : Nat) : Rat) = 5 ^ n := Nat.cast_pow 5 n
    have hten : (10 : Rat) ^ n = 5 ^ n * 2 ^ n := by rw [← mul_pow]; norm_num
    rw [hpow, hten]
    field_simp

/-- A decimal that reads back as a number without sign reads back as the number with its sign. -/
theorem toDouble_withSign {x : Double} {d : Decimal}
    (h : d.toDouble = .ofMagnitude false x.magnitude) :
    ({ d with negative := x.isNegative } : Decimal).toDouble = x := by
  have hbound : x.magnitude < 1 <<< Format.double.magnitudeBits :=
    Nat.mod_lt _ (by decide)
  have hnear := (Format.nearest_le (f := Format.double) d.magnitude).trans_lt
    Binary.infinityMagnitude_lt
  -- reading goes by size, and the two sizes have the same word
  have hmag : Format.double.nearest d.magnitude = x.magnitude := by
    rw [Decimal.toDouble_eq] at h
    have h' := congrArg Binary.magnitude h
    rwa [Binary.magnitude_ofMagnitude _ hnear, Binary.magnitude_ofMagnitude _ hbound] at h'
  rw [Decimal.toDouble_eq]
  change Binary.ofMagnitude x.isNegative (Format.double.nearest d.magnitude) = x
  rw [hmag, Binary.ofMagnitude_magnitude]

/-- **The shortest decimal reads back.** -/
theorem toDouble_shortest {x : Double} (h : x.isFinite = true) : x.shortest.toDouble = x := by
  obtain ⟨m, e, hunpack⟩ := Binary.unpack_of_isFinite h
  have hnear := Binary.nearest_unpack hunpack
  unfold shortest
  rw [hunpack]
  dsimp only
  by_cases hm : m = 0
  · -- zero has a decimal of its own, with its sign
    subst hm
    rw [Nat.cast_zero, zero_mul, Format.nearest_zero] at hnear
    rw [if_pos rfl, Decimal.toDouble_eq, Decimal.magnitude_of_zero rfl, Format.nearest_zero, hnear]
    exact Binary.ofMagnitude_magnitude x
  · rw [if_neg hm]
    refine toDouble_withSign ?_
    cases hfound : shortestOn? (Binary.ofMagnitude false x.magnitude) (signedPower false m e)
      (floorLog10 (signedPower false m e)) (List.range 17) with
    | some d => exact toDouble_of_shortestOn hfound
    | none =>
      -- nothing short was found, and the exact decimal is rounded back to where it came from
      rw [Option.getD_none, Decimal.toDouble_eq, magnitude_exactDecimal, hnear]
      unfold exactDecimal
      split <;> rfl

end Double

end GlBridge
