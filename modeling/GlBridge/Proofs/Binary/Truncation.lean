import GlBridge.Proofs.Binary.Value

/-!
# Integer parts

`Binary.truncateTo` takes a word to an integer: the number that the word stands for, without what
is behind the point, clamped to a range (`Binary.truncateTo_eq`). For a natural number of few
enough digits the way there and back is exact: the word nearest to it stands for just that number
(`Double.toRat_ofInt`), and its integer part is the number again (`Double.truncateTo_ofInt`).
-/

namespace GlBridge

/-- The integer part of a number, taken towards zero. -/
def integerPart (q : Rat) : Int := if 0 ≤ q then ⌊q⌋ else ⌈q⌉

/-- The nearest number of the range `0 … bound`. -/
def clampTo (bound : Nat) (i : Int) : Int := max 0 (min i bound)

/-- An integer is its own integer part. -/
theorem integerPart_natCast (n : Nat) : integerPart n = n := by
  rw [integerPart, if_pos (by positivity), Int.floor_natCast]

/-- Truncation does not go past zero from below, ... -/
theorem integerPart_nonpos {q : Rat} (h : q ≤ 0) : integerPart q ≤ 0 := by
  rcases h.lt_or_eq with hneg | rfl
  · rw [integerPart, if_neg hneg.not_ge]
    exact Int.ceil_le.2 (by exact_mod_cast hneg.le)
  · exact (integerPart_natCast 0).le

/-- ... and what is not positive is clamped to zero. -/
theorem clampTo_of_nonpos {bound : Nat} {i : Int} (h : i ≤ 0) : clampTo bound i = 0 :=
  max_eq_left ((min_le_left i bound).trans h)

/-- From above only the bound is in the way. -/
theorem clampTo_natCast (bound n : Nat) : clampTo bound n = (min bound n : Nat) := by
  rw [clampTo, max_eq_right (by positivity), min_comm, Nat.cast_min]

/-- Shifting a coefficient, to the left or to the right, leaves the integer part. -/
theorem floor_shift (m : Nat) (e : Int) :
    ⌊(m : Rat) * 2 ^ e⌋ = ((if 0 ≤ e then m <<< e.toNat else m >>> (-e).toNat : Nat) : Int) := by
  -- to the left nothing is lost, and to the right the shift divides and drops the rest
  by_cases he : 0 ≤ e
  · obtain ⟨n, rfl⟩ := Int.eq_ofNat_of_zero_le he
    have hcast : (m : Rat) * 2 ^ (n : Int) = ((m * 2 ^ n : Nat) : Rat) := by push_cast; rfl
    rw [if_pos he, Int.toNat_natCast, Nat.shiftLeft_eq, hcast, Int.floor_natCast]
  · obtain ⟨n, rfl⟩ := Int.exists_eq_neg_ofNat (not_le.1 he).le
    have hcast : (m : Rat) * 2 ^ (-(n : Int)) = (m : Rat) / ((2 ^ n : Nat) : Rat) := by
      rw [zpow_neg, zpow_natCast, ← div_eq_mul_inv]
      push_cast
      rfl
    rw [if_neg he, neg_neg, Int.toNat_natCast, Nat.shiftRight_eq_div_pow, hcast,
      Rat.floor_natCast_div_natCast]
    exact Int.natCast_ediv _ _

namespace Binary

variable {f : Format}

/-- Some number is stood for by a word that is finite. -/
theorem toRat_of_isFinite {x : Binary f} (h : x.isFinite = true) : ∃ q, x.toRat? = some q :=
  ⟨_, toRat_eq_value h⟩

/-- **What is taken is the integer part, clamped to the range.** -/
theorem truncateTo_eq {x : Binary f} {q : Rat} (h : x.toRat? = some q) (bound : Nat) :
    (x.truncateTo bound : Int) = clampTo bound (integerPart q) := by
  unfold toRat? at h
  unfold truncateTo
  split at h
  next negative m e hunpack =>
    obtain rfl := Option.some.inj h
    have hpos : (0 : Rat) ≤ m * 2 ^ e := by positivity
    rw [hunpack]
    cases negative with
    | true =>
      have hsigned : signedPower true m e ≤ 0 := by
        rw [signedPower_true]
        exact neg_nonpos.2 hpos
      exact (clampTo_of_nonpos (integerPart_nonpos hsigned)).symm
    | false =>
      -- what is shifted is the coefficient, and clamping is a minimum
      rw [signedPower_false, integerPart, if_pos hpos, floor_shift, clampTo_natCast]
      rfl
  next => cases h

/-- **A number of the format is what the word nearest to it stands for**: one whose coefficient has
all the digits that there can be, and that is no infinity. -/
theorem toRat_round {m field : Nat} {q : Rat} (hq : q = m * 2 ^ (f.minExponent + field : Int))
    (hlow : 2 ^ f.fractionBits ≤ m) (hhigh : m < 2 ^ (f.fractionBits + 1))
    (hfinite : m + field * 2 ^ f.fractionBits < f.infinityMagnitude) :
    (round false q : Binary f).toRat? = some q := by
  have hm : 0 < m := lt_of_lt_of_le (by positivity) hlow
  have hpos : 0 < q := by rw [hq]; positivity
  have hlog : m.log2 = f.fractionBits := (Nat.log2_eq_iff hm.ne').2 ⟨hlow, hhigh⟩
  have hnear : f.nearest q = m + field * 2 ^ f.fractionBits := by
    rw [hq, Format.nearest_eq hm (by omega) hlog.le (.inr hlog), add_sub_cancel_left,
      Int.toNat_natCast, Nat.shiftLeft_eq, Nat.min_eq_right hfinite.le]
  -- it is packed from just this coefficient and field
  have hround : (round false q : Binary f) =
      ofMagnitude false (m + field * 2 ^ f.fractionBits) := by
    rw [round_eq, if_neg hpos.ne', hnear, decide_eq_false hpos.le.not_gt]
  have hbits := hfinite.trans infinityMagnitude_lt
  have hnumber : (round false q : Binary f).isFinite = true := by
    rw [hround]
    exact decide_eq_true ((magnitude_ofMagnitude _ hbits).symm ▸ hfinite)
  rw [toRat_eq_value hnumber, hround, value_ofMagnitude false hhigh.le (.inr hlow) hfinite,
    signedPower_false, ← hq]

end Binary

namespace Double

/-- **A natural number of at most 53 binary digits is a float.** -/
theorem toRat_ofInt {n : Nat} (h : n < 2 ^ 53) :
    (Binary.ofInt n : Double).toRat? = some (n : Rat) := by
  rcases Nat.eq_zero_or_pos n with rfl | hpos
  · have hunpack : (Binary.ofInt (0 : Nat) : Double).unpack = .finite false 0 (-1074) := by decide
    unfold Binary.toRat?
    rw [hunpack]
    simp [signedPower]
  -- the digits that are missing are made up for in the exponent
  have hlog : n.log2 < 53 := (Nat.log2_lt hpos.ne').2 h
  have hdigits : n.log2 + (52 - n.log2) = 52 := by omega
  have hlow : 2 ^ 52 ≤ n * 2 ^ (52 - n.log2) := by
    calc 2 ^ 52 = 2 ^ n.log2 * 2 ^ (52 - n.log2) := by rw [← Nat.pow_add, hdigits]
      _ ≤ n * 2 ^ (52 - n.log2) := Nat.mul_le_mul_right _ (Nat.log2_self_le hpos.ne')
  have hhigh : n * 2 ^ (52 - n.log2) < 2 ^ 53 := by
    calc n * 2 ^ (52 - n.log2) < 2 ^ (n.log2 + 1) * 2 ^ (52 - n.log2) :=
          Nat.mul_lt_mul_of_pos_right Nat.lt_log2_self (by positivity)
      _ = 2 ^ 53 := by rw [← Nat.pow_add, Nat.add_right_comm, hdigits]
  have hmin : Format.double.minExponent = -1074 := by decide
  have hinfinity : Format.double.infinityMagnitude = 2047 * 2 ^ 52 := by decide
  -- the same number with a coefficient of 53 digits
  have hvalue : (n : Rat) = (n * 2 ^ (52 - n.log2) : Nat) *
      2 ^ (Format.double.minExponent + (1022 + n.log2 : Nat) : Int) := by
    have hexponent : Format.double.minExponent + (1022 + n.log2 : Nat) =
        -((52 - n.log2 : Nat) : Int) := by
      rw [hmin]
      omega
    rw [hexponent, zpow_neg, zpow_natCast]
    push_cast
    field_simp
  unfold Binary.ofInt
  rw [Int.cast_natCast]
  refine Binary.toRat_round hvalue hlow hhigh ?_
  rw [hinfinity]
  show _ + (1022 + n.log2) * 2 ^ 52 < _
  omega

/-- **The way to a float and back is exact**, for natural numbers of at most 53 binary digits. -/
theorem truncateTo_ofInt {n bound : Nat} (h : n < 2 ^ 53) (hbound : n ≤ bound) :
    (Binary.ofInt n : Double).truncateTo bound = n := by
  have htruncate := Binary.truncateTo_eq (toRat_ofInt h) bound
  rw [integerPart_natCast, clampTo_natCast, Nat.min_eq_right hbound] at htruncate
  exact_mod_cast htruncate

end Double
end GlBridge
