import GlBridge.Proofs.Binary.Squares

/-!
# Errors of 32-bit arithmetic

`Single.Near` relates the outcome of a 32-bit operation to the exact result: they differ by a small
fraction of the result, plus `Single.tiny`, which is half of the smallest positive number and
matters only next to zero. Whenever an operation delivers a number, it is near to the exact one
(`Single.near_mul`, `Single.near_add`, `Single.near_div`).

Two compositions are worked out. `Single.abs_sum_squares_sub_le` is for a sum of three squares,
where each of five operations rounds, and `Single.sqrt_near` for a square root, where it is the
square of the outcome that is compared with the operand. As long as the numbers are not too close to
zero, both are off by a fraction of less than a millionth.
-/

namespace GlBridge.Single

/-! ### One operation -/

/-- Half of the smallest positive number. -/
def tiny : Rat := 1 / 2 ^ 150

/-- It is positive, ... -/
theorem tiny_pos : 0 < tiny := by
  unfold tiny
  positivity

/-- ... and far below all that is compared with it. -/
theorem tiny_le : tiny ≤ 1 / 2 ^ 100 := by
  unfold tiny
  norm_num

/-- `v` is as near to `q` as rounding leaves it. -/
def Near (v q : Rat) : Prop := |v - q| ≤ |q| / 2 ^ 24 + tiny

/-- For a result that is not negative the outcome lies between two bounds. -/
theorem Near.bounds {v q : Rat} (h : Near v q) (hq : 0 ≤ q) :
    q - q / 2 ^ 24 - tiny ≤ v ∧ v ≤ q + q / 2 ^ 24 + tiny := by
  unfold Near at h
  rw [abs_of_nonneg hq, abs_le] at h
  constructor <;> linarith [h.1, h.2]

/-- The outcome is not much greater than the result. -/
theorem Near.abs_le {v q : Rat} (h : Near v q) : |v| ≤ |q| + |q| / 2 ^ 24 + tiny := by
  have htriangle := abs_add_le (v - q) q
  rw [sub_add_cancel] at htriangle
  unfold Near at h
  linarith

/-- **One rounding** leaves what is near. -/
theorem near_round {zeroSign : Bool} {q : Rat}
    (h : (Binary.round zeroSign q : Single).isFinite = true) :
    Near (Binary.round zeroSign q : Single).value q := by
  have herror := Binary.value_round_near h
  have hmin : (2 : Rat) ^ Format.single.minExponent / 2 = tiny := by
    rw [show Format.single.minExponent = -149 by decide, tiny]
    norm_num
  rwa [hmin] at herror

/-- Up to about the hundredth power of two there is no overflow. -/
theorem isFinite_round {zeroSign : Bool} {q : Rat} (h : |q| < 2 ^ 100) :
    (Binary.round zeroSign q : Single).isFinite = true :=
  Binary.isFinite_round h (by decide) (by decide)

variable {x y : Single}

/-- A product of moderate size is a number, ... -/
theorem isFinite_mul (hx : x.isFinite = true) (hy : y.isFinite = true)
    (h : |x.value * y.value| < 2 ^ 100) : (x * y).isFinite = true :=
  Binary.mul_eq_round hx hy ▸ isFinite_round h

/-- ... and so is a sum. -/
theorem isFinite_add (hx : x.isFinite = true) (hy : y.isFinite = true)
    (h : |x.value + y.value| < 2 ^ 100) : (x + y).isFinite = true :=
  Binary.add_eq_round hx hy ▸ isFinite_round h

/-- Where it is one, the product is near to the exact one, ... -/
theorem near_mul (hx : x.isFinite = true) (hy : y.isFinite = true)
    (h : (x * y).isFinite = true) : Near (x * y).value (x.value * y.value) := by
  rw [Binary.mul_eq_round hx hy] at h ⊢
  exact near_round h

/-- ... and so is the sum. -/
theorem near_add (hx : x.isFinite = true) (hy : y.isFinite = true)
    (h : (x + y).isFinite = true) : Near (x + y).value (x.value + y.value) := by
  rw [Binary.add_eq_round hx hy] at h ⊢
  exact near_round h

/-- A quotient of moderate size is a number, and near to the exact one. -/
theorem near_div (hx : x.isFinite = true) (hy : y.isFinite = true) (hzero : y.isZero = false)
    (h : |x.value / y.value| < 2 ^ 100) :
    (x / y).isFinite = true ∧ Near (x / y).value (x.value / y.value) := by
  -- whether it is a number is known from the exact quotient
  rw [Binary.div_eq_round hx hy hzero]
  exact ⟨isFinite_round h, near_round (isFinite_round h)⟩

/-! ### The range -/

/-- The size of a number and of the positive ones. -/
theorem abs_value_of_unpack {m : Nat} {e : Int} (h : x.unpack = .finite x.isNegative m e) :
    |x.value| = m * 2 ^ e := by
  rw [Binary.value_of_unpack h]
  have hpos : (0 : Rat) ≤ m * 2 ^ e := by positivity
  cases x.isNegative with
  | false => rw [signedPower_false, abs_of_nonneg hpos]
  | true => rw [signedPower_true, abs_neg, abs_of_nonneg hpos]

/-- The greatest number is below this power of two. -/
theorem abs_value_lt (h : x.isFinite = true) : |x.value| < 2 ^ 128 := by
  obtain ⟨m, e, hunpack⟩ := Binary.unpack_of_isFinite h
  obtain ⟨-, -, hm⟩ := Binary.unpack_eq_finite hunpack
  have hmagnitude : x.magnitude < 255 * 2 ^ 23 := of_decide_eq_true h
  have hmin : Format.single.minExponent = -149 := by decide
  -- 24 digits at most, and an exponent field that is not that of an infinity
  have hparts : m < 2 ^ 24 ∧ e ≤ 104 := by
    rcases hm with ⟨-, hlt, rfl⟩ | ⟨field, hpacked, hlow, hhigh, rfl⟩
    · change m < 2 ^ 23 at hlt
      omega
    · change x.magnitude = m + field * 2 ^ 23 at hpacked
      change 2 ^ 23 ≤ m at hlow
      change m < 2 ^ 24 at hhigh
      omega
  have hcast : (m : Rat) < 2 ^ 24 := by exact_mod_cast hparts.1
  rw [abs_value_of_unpack hunpack]
  calc (m : Rat) * 2 ^ e < 2 ^ 24 * 2 ^ e := by gcongr
    _ ≤ 2 ^ 24 * 2 ^ (104 : Int) := by
      gcongr
      · norm_num
      · exact hparts.2
    _ = 2 ^ 128 := by norm_num

/-- The smallest positive number. -/
theorem two_mul_tiny_le (h : x.isFinite = true) (hpos : 0 < x.value) : 2 * tiny ≤ x.value := by
  obtain ⟨m, e, hunpack⟩ := Binary.unpack_of_isFinite h
  obtain ⟨-, -, hm⟩ := Binary.unpack_eq_finite hunpack
  have habs := abs_value_of_unpack hunpack
  rw [abs_of_pos hpos] at habs
  have hmpos : 0 < m := Nat.pos_of_ne_zero fun hm0 => hpos.ne' <| by
    rwa [hm0, Nat.cast_zero, zero_mul] at habs
  have he : -149 ≤ e := by
    have hmin : Format.single.minExponent = -149 := by decide
    rcases hm with ⟨-, -, rfl⟩ | ⟨field, -, -, -, rfl⟩ <;> omega
  have hone : (1 : Rat) ≤ m := by exact_mod_cast hmpos
  rw [habs]
  calc 2 * tiny = 1 * 2 ^ (-149 : Int) := by
        unfold tiny
        norm_num
    _ ≤ m * 2 ^ e := by
      gcongr
      norm_num

/-! ### Squares and roots -/

/-- The square of an outcome. -/
theorem Near.abs_mul_self_sub_le {v q : Rat} (h : Near v q) (hq : |q| ≤ 4) :
    |v * v - q * q| ≤ q * q / 2 ^ 22 + 10 * tiny := by
  have htiny := tiny_le
  have hpos := tiny_pos
  have hsum : |v + q| ≤ 2 * |q| + |q| / 2 ^ 24 + tiny := by
    have htriangle := abs_add_le v q
    linarith [h.abs_le]
  have hsquare : |q| * |q| = q * q := abs_mul_abs_self q
  rw [show v * v - q * q = (v - q) * (v + q) by ring, abs_mul]
  -- the difference of squares, each factor by its bound
  calc |v - q| * |v + q|
      ≤ (|q| / 2 ^ 24 + tiny) * (2 * |q| + |q| / 2 ^ 24 + tiny) := by
        gcongr
        exact h
    _ = |q| * |q| * (2 / 2 ^ 24 + 1 / 2 ^ 48) + |q| * tiny * (2 + 2 / 2 ^ 24) + tiny * tiny := by
        ring
    _ ≤ |q| * |q| * (2 / 2 ^ 24 + 1 / 2 ^ 48) + 4 * tiny * (2 + 2 / 2 ^ 24) + 1 * tiny := by
        gcongr
        linarith
    _ ≤ q * q / 2 ^ 22 + 10 * tiny := by
        rw [hsquare]
        have hqq : 0 ≤ q * q := mul_self_nonneg q
        linarith

/-- **A sum of three squares**, rounded after each of five operations. -/
theorem abs_sum_squares_sub_le {a b c a₂ b₂ c₂ s d : Rat} (ha : Near a₂ (a * a))
    (hb : Near b₂ (b * b)) (hc : Near c₂ (c * c)) (ha₂ : 0 ≤ a₂) (hb₂ : 0 ≤ b₂) (hc₂ : 0 ≤ c₂)
    (hs₂ : 0 ≤ s) (hs : Near s (a₂ + b₂)) (hd : Near d (s + c₂)) :
    |d - (a * a + b * b + c * c)| ≤ (a * a + b * b + c * c) / 2 ^ 22 + 6 * tiny := by
  have hpos := tiny_pos
  have haa := mul_self_nonneg a
  have hbb := mul_self_nonneg b
  have hcc := mul_self_nonneg c
  obtain ⟨ha₁, ha₃⟩ := ha.bounds haa
  obtain ⟨hb₁, hb₃⟩ := hb.bounds hbb
  obtain ⟨hc₁, hc₃⟩ := hc.bounds hcc
  obtain ⟨hs₁, hs₃⟩ := hs.bounds (add_nonneg ha₂ hb₂)
  obtain ⟨hd₁, hd₃⟩ := hd.bounds (add_nonneg hs₂ hc₂)
  rw [abs_le]
  -- all bounds are linear in the squares, so they can be added up
  constructor <;> linarith

/-- What is rounded to a root is far from the numbers next to zero. -/
theorem tiny_le_div {r : Rat} (hr : 0 < r) (h : tiny ≤ r * r) : tiny ≤ r / 2 ^ 26 := by
  have hpos := tiny_pos
  have htiny := tiny_le
  by_contra hlt
  have hlt' : r < 2 ^ 26 * tiny := by linarith
  have hsquare : r * r < 2 ^ 26 * tiny * (2 ^ 26 * tiny) := mul_lt_mul'' hlt' hlt' hr.le hr.le
  -- the square of anything below would be less than `tiny` itself
  have hsmall : 2 ^ 26 * tiny * (2 ^ 26 * tiny) ≤ tiny := by
    calc 2 ^ 26 * tiny * (2 ^ 26 * tiny) = 2 ^ 52 * tiny * tiny := by ring
      _ ≤ 1 * tiny := by
        gcongr
        linarith
      _ = tiny := one_mul _
  linarith

/-- **A square root**, compared by its square. -/
theorem sqrt_near (hx : x.Nonneg) (hfinite : x.isFinite = true) (hpos : 0 < x.value) :
    x.sqrt.isFinite = true ∧ 0 < x.sqrt.value ∧
      |x.sqrt.value * x.sqrt.value - x.value| ≤ x.value / 2 ^ 21 := by
  obtain ⟨r, hr, hrpos, hsquare⟩ := Binary.sqrt_eq_round hx hfinite hpos
  have hlt : x.value < 2 ^ 128 := (le_abs_self _).trans_lt (abs_value_lt hfinite)
  have hsmallest := two_mul_tiny_le hfinite hpos
  change |r * r - x.value| ≤ x.value / 2 ^ 26 at hsquare
  obtain ⟨hlow, hhigh⟩ := abs_le.1 hsquare
  have htiny : tiny ≤ r / 2 ^ 26 := tiny_le_div hrpos (by linarith)
  -- the root of a number is well inside the range, so rounding it is safe
  have hbelow : |r| < 2 ^ 100 := by
    rw [abs_of_pos hrpos]
    refine lt_of_mul_self_lt_mul_self₀ (by norm_num) ?_
    calc r * r ≤ 2 * x.value := by linarith
      _ < 2 ^ 100 * 2 ^ 100 := by linarith
  have hroot : (Binary.round false r : Single).isFinite = true := isFinite_round hbelow
  obtain ⟨hnear₁, hnear₂⟩ := (near_round hroot).bounds hrpos.le
  rw [hr]
  generalize (Binary.round false r : Single).value = s at hnear₁ hnear₂
  refine ⟨hroot, by linarith, ?_⟩
  -- the outcome differs from the number that was rounded by a fraction of it
  have hlow' : r * (1 - 1 / 2 ^ 23) ≤ s := by linarith
  have hhigh' : s ≤ r * (1 + 1 / 2 ^ 23) := by linarith
  have hs : 0 ≤ s := le_trans (by positivity) hlow'
  have hsquare₁ : r * (1 - 1 / 2 ^ 23) * (r * (1 - 1 / 2 ^ 23)) ≤ s * s := by gcongr
  have hsquare₂ : s * s ≤ r * (1 + 1 / 2 ^ 23) * (r * (1 + 1 / 2 ^ 23)) := by gcongr
  rw [abs_le]
  constructor <;> linarith

end GlBridge.Single
