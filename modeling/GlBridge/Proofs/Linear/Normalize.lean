import GlBridge.Linear.Vec
import GlBridge.Proofs.Binary.Nearness

/-!
# Vectors of norm one

`Vec3.normalize` divides a vector by its norm, and the norm is computed from the squares of the
components. So it depends on the size of these squares what comes out, for components that are
numbers (`Vec3.normalize_isUnit`).

* If their sum is a normal number, the result has norm one, with an error below the tolerance of one
  part in a hundred thousand. Among the subnormal numbers the squares lose digits, and the error
  grows up to the size of the norm itself.
* If the sum is too great, the norm is the infinity and every component becomes zero.
* If the sum is lost next to zero, the norm counts as zero and the vector stays as it is.

The vectors of the last two cases are not normalized, although their components are numbers and not
all zero (`Vec3.normalize_not_unit`).

The proof is an account of errors in three steps: the norm against the exact one
(`Vec3.dot_self_near`, `Vec3.length_near`), the quotients against the exact ones (`Vec3.quotients`,
`Vec3.squares_div_near`), and the norm of the quotients against one (`Vec3.length_normalize_near`).
-/

namespace GlBridge

/-- The exponent field is neither that of the numbers next to zero nor that of infinities and
NaNs. -/
def Binary.isNormal {f : Format} (x : Binary f) : Bool :=
  x.isFinite && (2 ^ f.fractionBits ≤ x.magnitude : Bool)

namespace Single

/-- The smallest normal number. -/
theorem le_value_of_isNormal {x : Single} (hx : x.Nonneg) (h : x.isNormal = true) :
    2 ^ 24 * tiny ≤ x.value := by
  unfold Binary.isNormal at h
  rw [Bool.and_eq_true, decide_eq_true_iff] at h
  obtain ⟨hfinite, hnormal⟩ := h
  obtain ⟨m, e, hunpack⟩ := Binary.unpack_of_isFinite hfinite
  obtain ⟨-, -, ⟨rfl, hlt, -⟩ | ⟨field, -, hlow, -, rfl⟩⟩ := Binary.unpack_eq_finite hunpack
  · omega
  · have hcast : (2 : Rat) ^ 23 ≤ m := by exact_mod_cast hlow
    rw [Binary.value_of_unpack hunpack, hx.not_isNegative, signedPower_false]
    calc 2 ^ 24 * tiny = (2 : Rat) ^ 23 * 2 ^ (-149 : Int) := by
          unfold tiny
          norm_num
      _ ≤ (m : Rat) * 2 ^ (Format.single.minExponent + field : Int) := by
        gcongr
        · norm_num
        · rw [show Format.single.minExponent = -149 by decide]
          omega

/-- Only a zero equals zero as a number. -/
theorem beq_zero_iff {x : Single} : (x == 0) = true ↔ x.isZero = true := by
  refine ⟨fun h => ?_, beq_zero⟩
  change Binary.beq x 0 = true at h
  unfold Binary.beq at h
  simp only [Bool.and_eq_true, Bool.or_eq_true, beq_iff_eq] at h
  rcases h.2 with hbits | ⟨hzero, -⟩
  · rw [Binary.ext hbits]
    exact isZero_zero
  · exact hzero

/-- The square of a component of moderate size is of moderate size. -/
theorem abs_mul_self_le {x : Single} (h : |x.value| ≤ 5) : |x.value * x.value| ≤ 25 := by
  rw [abs_mul]
  calc |x.value| * |x.value| ≤ 5 * 5 := by gcongr
    _ = 25 := by norm_num

/-- `q` is the quotient of `x` and the norm `n`: it is near to the exact one, and that is not
great. -/
structure IsQuotient (q x n : Single) : Prop where
  isFinite : q.isFinite = true
  near : Near q.value (x.value / n.value)
  abs_le_four : |x.value / n.value| ≤ 4

/-- What is computed for a quotient is of moderate size as well. -/
theorem IsQuotient.abs_le_five {q x n : Single} (h : IsQuotient q x n) : |q.value| ≤ 5 := by
  have htiny := tiny_le
  have hle := h.near.abs_le
  linarith [h.abs_le_four]

end Single

namespace Vec3

open Single (IsQuotient tiny)

variable {v : Vec3 Single}

/-- All components of a vector have a property. -/
def All {α : Type} (p : α → Prop) (v : Vec3 α) : Prop := p v.x ∧ p v.y ∧ p v.z

/-- A vector of numbers is one whose components are numbers, each taken for itself. -/
theorem isFinite_iff : v.isFinite = true ↔ v.All (·.isFinite = true) := by
  unfold isFinite All
  rw [Bool.and_eq_true, Bool.and_eq_true, and_assoc]

/-- A vector of numbers whose norm is one, within a tolerance of one part in a hundred thousand of
one and of the greater of one and the norm. -/
structure IsUnit (v : Vec3 Single) : Prop where
  isFinite : v.isFinite = true
  isFinite_length : v.length.isFinite = true
  length_near : |v.length.value - 1| ≤ 1 / 100000 * (1 + max v.length.value 1)

/-! ### The norm -/

/-- The exact sum of the squares of the components. -/
def squares (v : Vec3 Single) : Rat :=
  v.x.value * v.x.value + v.y.value * v.y.value + v.z.value * v.z.value

/-- A squared norm has no sign, whether or not it is a number: every square is without one. -/
theorem nonneg_dot_self (h : v.isFinite = true) : (v.dot v).Nonneg := by
  obtain ⟨hx, hy, hz⟩ := isFinite_iff.1 h
  exact ((Binary.nonneg_mul_self hx).add (Binary.nonneg_mul_self hy)).add
    (Binary.nonneg_mul_self hz)

/-- **The squared norm is near to the exact one**, if it is a number. -/
theorem dot_self_near (h : v.isFinite = true) (hdot : (v.dot v).isFinite = true) :
    |(v.dot v).value - v.squares| ≤ v.squares / 2 ^ 22 + 6 * tiny := by
  obtain ⟨hx, hy, hz⟩ := isFinite_iff.1 h
  have hx₂ := Binary.nonneg_mul_self hx
  have hy₂ := Binary.nonneg_mul_self hy
  have hz₂ := Binary.nonneg_mul_self hz
  -- what was added up were numbers, or the sum would be none
  obtain ⟨hsum, hzz⟩ := (hx₂.add hy₂).isFinite_of_add hz₂ hdot
  obtain ⟨hxx, hyy⟩ := hx₂.isFinite_of_add hy₂ hsum
  exact Single.abs_sum_squares_sub_le (Single.near_mul hx hx hxx) (Single.near_mul hy hy hyy)
    (Single.near_mul hz hz hzz) hx₂.value_nonneg hy₂.value_nonneg hz₂.value_nonneg
    (hx₂.add hy₂).value_nonneg (Single.near_add hxx hyy hsum) (Single.near_add hsum hzz hdot)

/-- For components of moderate size the squared norm is a number. -/
theorem isFinite_dot_self (h : v.isFinite = true) (hx₅ : |v.x.value| ≤ 5) (hy₅ : |v.y.value| ≤ 5)
    (hz₅ : |v.z.value| ≤ 5) : (v.dot v).isFinite = true := by
  have htiny := Single.tiny_le
  obtain ⟨hx, hy, hz⟩ := isFinite_iff.1 h
  -- each square is at most 25, and what is computed for it is off by less than one
  have hsquare : ∀ {x : Single}, x.isFinite = true → |x.value| ≤ 5 →
      (x * x).isFinite = true ∧ |(x * x).value| ≤ 26 := fun {x} hx hx₅ => by
    have hle := Single.abs_mul_self_le hx₅
    have hxx := Single.isFinite_mul hx hx (hle.trans_lt (by norm_num))
    have hbound := (Single.near_mul hx hx hxx).abs_le
    exact ⟨hxx, by linarith⟩
  obtain ⟨hxx, hxx₂₆⟩ := hsquare hx hx₅
  obtain ⟨hyy, hyy₂₆⟩ := hsquare hy hy₅
  obtain ⟨hzz, hzz₂₆⟩ := hsquare hz hz₅
  have hxy₅₂ : |(v.x * v.x).value + (v.y * v.y).value| ≤ 52 :=
    (abs_add_le _ _).trans (by linarith)
  have hxy := Single.isFinite_add hxx hyy (hxy₅₂.trans_lt (by norm_num))
  have hxy₅₃ := (Single.near_add hxx hyy hxy).abs_le
  have hsum : |(v.x * v.x + v.y * v.y).value + (v.z * v.z).value| < 2 ^ 100 :=
    (abs_add_le _ _).trans_lt (by linarith)
  exact Single.isFinite_add hxy hzz hsum

/-- The norm is a positive number, and its square is near to the sum of squares it is the root
of. -/
theorem length_near (h : v.isFinite = true) (hdot : (v.dot v).isFinite = true)
    (hpos : 0 < (v.dot v).value) :
    v.length.isFinite = true ∧ 0 < v.length.value ∧
      |v.length.value * v.length.value - (v.dot v).value| ≤ (v.dot v).value / 2 ^ 21 :=
  Single.sqrt_near (nonneg_dot_self h) hdot hpos

/-- A squared norm of zero has itself as its root. -/
theorem length_of_isZero (h : v.isFinite = true) (hdot : (v.dot v).isZero = true) :
    v.length = v.dot v := by
  unfold length Binary.sqrt
  rw [if_neg (nonneg_dot_self h).not_isNaN, if_pos hdot]

/-- A squared norm is zero or positive. -/
theorem dot_self_pos (h : v.isFinite = true) (hdot : (v.dot v).isFinite = true)
    (hzero : ¬(v.dot v).isZero = true) : 0 < (v.dot v).value :=
  lt_of_le_of_ne (nonneg_dot_self h).value_nonneg fun hvalue =>
    hzero ((Binary.value_eq_zero_iff hdot).1 hvalue.symm)

/-! ### Quotients -/

/-- Where the norm is not zero, normalizing is a division by it. -/
theorem normalize_eq_div (h : v.length.isZero = false) : v.normalize = v / v.length := by
  have hne : ¬(v.length == 0) = true := fun hzero => by
    rw [Single.beq_zero_iff, h] at hzero
    cases hzero
  unfold normalize
  exact if_neg hne

/-- All components of a normalized vector are quotients. -/
structure Quotients (v : Vec3 Single) : Prop where
  x : IsQuotient v.normalize.x v.x v.length
  y : IsQuotient v.normalize.y v.y v.length
  z : IsQuotient v.normalize.z v.z v.length

/-- A component is at most four times a norm whose square is not far below the sum of squares. -/
theorem abs_div_le_four {a n s : Rat} (hn : 0 < n) (ha : a * a ≤ s) (hs : s ≤ 10 * (n * n)) :
    |a / n| ≤ 4 := by
  rw [abs_div, abs_of_pos hn, div_le_iff₀ hn]
  refine nonneg_le_nonneg_of_sq_le_sq (by positivity) ?_
  rw [abs_mul_abs_self]
  linarith [mul_self_nonneg n]

/-- **The quotients are numbers**, whenever the squared norm is a number other than zero. -/
theorem quotients (h : v.isFinite = true) (hdot : (v.dot v).isFinite = true)
    (hpos : 0 < (v.dot v).value) : v.Quotients := by
  obtain ⟨hx, hy, hz⟩ := isFinite_iff.1 h
  obtain ⟨hlength, hlpos, hlnear⟩ := length_near h hdot hpos
  have hsmallest := Single.two_mul_tiny_le hdot hpos
  -- even for the smallest squared norm the exact one is not much greater
  have hsquares : v.squares ≤ 10 * (v.length.value * v.length.value) := by
    have hdnear := (abs_le.1 (dot_self_near h hdot)).1
    have hlnear' := (abs_le.1 hlnear).1
    linarith
  have hzero : v.length.isZero = false :=
    Bool.eq_false_iff.2 fun hzero => hlpos.ne' (Binary.value_of_isZero hzero)
  have hquotient : ∀ x : Single, x.isFinite = true → x.value * x.value ≤ v.squares →
      IsQuotient (x / v.length) x v.length := fun x hx hsquare => by
    have hle := abs_div_le_four hlpos hsquare hsquares
    obtain ⟨hfinite, hnear⟩ := Single.near_div hx hlength hzero (hle.trans_lt (by norm_num))
    exact ⟨hfinite, hnear, hle⟩
  have hxx := mul_self_nonneg v.x.value
  have hyy := mul_self_nonneg v.y.value
  have hzz := mul_self_nonneg v.z.value
  have hdiv := normalize_eq_div hzero
  constructor
  · exact hdiv ▸ hquotient v.x hx (by unfold squares; linarith)
  · exact hdiv ▸ hquotient v.y hy (by unfold squares; linarith)
  · exact hdiv ▸ hquotient v.z hz (by unfold squares; linarith)

/-- A vector whose components are quotients is one of numbers. -/
theorem Quotients.isFinite (h : v.Quotients) : v.normalize.isFinite = true :=
  isFinite_iff.2 ⟨h.x.isFinite, h.y.isFinite, h.z.isFinite⟩

/-- The exact squares of the quotients. -/
theorem Quotients.squares_near (h : v.Quotients) :
    |v.normalize.squares - v.squares / (v.length.value * v.length.value)| ≤
      v.squares / (v.length.value * v.length.value) / 2 ^ 22 + 30 * tiny := by
  have hsplit : v.squares / (v.length.value * v.length.value) =
      v.x.value / v.length.value * (v.x.value / v.length.value) +
        v.y.value / v.length.value * (v.y.value / v.length.value) +
        v.z.value / v.length.value * (v.z.value / v.length.value) := by
    unfold squares
    rw [add_div, add_div, mul_div_mul_comm, mul_div_mul_comm, mul_div_mul_comm]
  obtain ⟨hx₁, hx₂⟩ := abs_le.1 (h.x.near.abs_mul_self_sub_le h.x.abs_le_four)
  obtain ⟨hy₁, hy₂⟩ := abs_le.1 (h.y.near.abs_mul_self_sub_le h.y.abs_le_four)
  obtain ⟨hz₁, hz₂⟩ := abs_le.1 (h.z.near.abs_mul_self_sub_le h.z.abs_le_four)
  rw [hsplit]
  unfold squares
  rw [abs_le]
  constructor <;> linarith

/-- The squared norm of a normalized vector does not leave the range. -/
theorem Quotients.isFinite_dot_self (h : v.Quotients) :
    (v.normalize.dot v.normalize).isFinite = true :=
  Vec3.isFinite_dot_self h.isFinite h.x.abs_le_five h.y.abs_le_five h.z.abs_le_five

/-! ### The norm of the quotients -/

/-- A positive number is nearer to one than its square. -/
theorem abs_sub_one_le {l : Rat} (h : 0 < l) : |l - 1| ≤ |l * l - 1| := by
  have hfactor : l * l - 1 = (l - 1) * (l + 1) := by ring
  have hone : 1 ≤ |l + 1| := by
    rw [abs_of_pos (by linarith)]
    linarith
  rw [hfactor, abs_mul]
  exact le_mul_of_one_le_right (abs_nonneg _) hone

/-- The exact squares of the exact quotients add up to one, but for what the norm is off. -/
theorem squares_div_near (h : v.isFinite = true) (hdot : (v.dot v).isFinite = true)
    (hpos : 0 < (v.dot v).value) :
    |v.squares / (v.length.value * v.length.value) - 1| ≤
      1 / 2 ^ 19 + 7 * (tiny / (v.dot v).value) := by
  obtain ⟨-, hlpos, hlnear⟩ := length_near h hdot hpos
  have hll : 0 < v.length.value * v.length.value := by positivity
  obtain ⟨hd₁, hd₂⟩ := abs_le.1 (dot_self_near h hdot)
  obtain ⟨hl₁, hl₂⟩ := abs_le.1 hlnear
  -- what is constant in the error of the squared norm, as a fraction of it
  have htiny : tiny / (v.dot v).value * (v.dot v).value = tiny := div_mul_cancel₀ _ hpos.ne'
  have hfraction : 0 ≤ tiny / (v.dot v).value := by
    have htiny₀ := Single.tiny_pos
    positivity
  have hlow : tiny / (v.dot v).value * ((v.dot v).value * (1 - 1 / 2 ^ 21)) ≤
      tiny / (v.dot v).value * (v.length.value * v.length.value) :=
    mul_le_mul_of_nonneg_left (by linarith) hfraction
  rw [← mul_assoc, htiny] at hlow
  rw [abs_le, le_sub_iff_add_le, sub_le_iff_le_add, le_div_iff₀ hll, div_le_iff₀ hll]
  constructor <;> linarith

/-- **The norm of a normalized vector**, whenever the squared norm of the vector is a number other
than zero. It is one up to a small error, and the error of the squared norm next to zero, which is
constant and so weighs the more the smaller the squared norm is. -/
theorem length_normalize_near (h : v.isFinite = true) (hdot : (v.dot v).isFinite = true)
    (hpos : 0 < (v.dot v).value) :
    v.normalize.length.isFinite = true ∧
      |v.normalize.length.value - 1| ≤ 1 / 2 ^ 17 + 8 * (tiny / (v.dot v).value) := by
  have htiny := Single.tiny_le
  have htiny₀ := Single.tiny_pos
  have hq := quotients h hdot hpos
  have hfraction₀ : 0 ≤ tiny / (v.dot v).value := by positivity
  -- no squared norm other than zero is less than twice the smallest number
  have hfraction : tiny / (v.dot v).value ≤ 1 / 2 := by
    have hsmallest := Single.two_mul_tiny_le hdot hpos
    rw [div_le_iff₀ hpos]
    linarith
  obtain ⟨hr₁, hr₂⟩ := abs_le.1 (squares_div_near h hdot hpos)
  -- the exact squares of the quotients as they are, and the squared norm that is computed
  obtain ⟨hs₁, hs₂⟩ := abs_le.1 hq.squares_near
  have hdot' := hq.isFinite_dot_self
  obtain ⟨hd₁, hd₂⟩ := abs_le.1 (dot_self_near hq.isFinite hdot')
  by_cases hzero : (v.normalize.dot v.normalize).isZero = true
  · -- if nothing is left of the squared norm, one is within the error
    rw [length_of_isZero hq.isFinite hzero, Binary.value_of_isZero hzero]
    rw [Binary.value_of_isZero hzero] at hd₁
    refine ⟨hdot', ?_⟩
    rw [abs_le]
    constructor <;> linarith
  · obtain ⟨hlength, hlpos', hlnear'⟩ :=
      length_near hq.isFinite hdot' (dot_self_pos hq.isFinite hdot' hzero)
    obtain ⟨hl₁, hl₂⟩ := abs_le.1 hlnear'
    refine ⟨hlength, (abs_sub_one_le hlpos').trans ?_⟩
    rw [abs_le]
    constructor <;> linarith

/-- **A normal squared norm** leads to a vector of norm one. -/
theorem isUnit_of_isNormal (h : v.isFinite = true) (hnormal : (v.dot v).isNormal = true) :
    v.normalize.IsUnit := by
  have htiny₀ := Single.tiny_pos
  have hdot : (v.dot v).isFinite = true := by
    unfold Binary.isNormal at hnormal
    exact (Bool.and_eq_true _ _ ▸ hnormal).1
  have hsize := Single.le_value_of_isNormal (nonneg_dot_self h) hnormal
  have hpos : 0 < (v.dot v).value := by linarith
  have hfraction : tiny / (v.dot v).value ≤ 1 / 2 ^ 24 := by
    rw [div_le_iff₀ hpos]
    linarith
  obtain ⟨hlength, hnear⟩ := length_normalize_near h hdot hpos
  refine ⟨(quotients h hdot hpos).isFinite, hlength, hnear.trans ?_⟩
  linarith [le_max_right v.normalize.length.value 1]

/-! ### Outside the range -/

/-- A squared norm that is too great makes all components vanish. -/
theorem isZero_of_overflow (h : v.isFinite = true) (hdot : ¬(v.dot v).isFinite = true) :
    v.normalize.All (·.isZero = true) := by
  obtain ⟨hx, hy, hz⟩ := isFinite_iff.1 h
  have hlength : v.length = .infinity false := by
    unfold length
    rw [(nonneg_dot_self h).eq_infinity hdot, Binary.sqrt_infinity]
  have hzero : v.length.isZero = false := by
    rw [hlength]
    decide
  rw [normalize_eq_div hzero, hlength]
  exact ⟨Binary.isZero_div_infinity hx, Binary.isZero_div_infinity hy,
    Binary.isZero_div_infinity hz⟩

/-- A squared norm of zero leaves the vector as it is. -/
theorem normalize_of_underflow (h : v.isFinite = true) (hdot : (v.dot v).isZero = true) :
    v.normalize = v := by
  have hzero : (v.length == 0) = true := Single.beq_zero_iff.2 (length_of_isZero h hdot ▸ hdot)
  unfold normalize
  exact if_pos hzero

/-- Zeros are numbers. -/
theorem isFinite_of_isZero (h : v.All (·.isZero = true)) : v.isFinite = true := by
  have hzero : ∀ {x : Single}, x.isZero = true → x.isFinite = true := fun {x} hx => by
    have hmagnitude : x.magnitude = 0 := beq_iff_eq.1 hx
    exact decide_eq_true (hmagnitude ▸ by decide)
  exact isFinite_iff.2 ⟨hzero h.1, hzero h.2.1, hzero h.2.2⟩

/-- **Normalizing a vector of numbers gives a vector of numbers**, whatever their size. -/
theorem isFinite_normalize (h : v.isFinite = true) : v.normalize.isFinite = true := by
  by_cases hdot : (v.dot v).isFinite = true
  · by_cases hzero : (v.dot v).isZero = true
    · rw [normalize_of_underflow h hzero]
      exact h
    · exact (quotients h hdot (dot_self_pos h hdot hzero)).isFinite
  · exact isFinite_of_isZero (isZero_of_overflow h hdot)

/-- **What becomes of a vector of numbers.** Normalizing it gives a vector of numbers. If the
squared norm is a normal number, the result has norm one within the tolerance; if it is any number
but zero, this holds up to an error that grows as the squared norm gets smaller. If the squared norm
is the infinity, the components of the result are zeros; if it is zero, the vector stays as it
is. -/
theorem normalize_isUnit (v : Vec3 Single) (h : v.isFinite = true) :
    v.normalize.isFinite = true ∧
    ((v.dot v).isNormal = true → v.normalize.IsUnit) ∧
    ((v.dot v).isFinite = true → (v.dot v).isZero = false →
      v.normalize.length.isFinite = true ∧
        |v.normalize.length.value - 1| ≤ 1 / 2 ^ 17 + 8 * (tiny / (v.dot v).value)) ∧
    ((v.dot v).isInfinite = true → v.normalize.All (·.isZero = true)) ∧
    ((v.dot v).isZero = true → v.normalize = v) := by
  refine ⟨isFinite_normalize h, isUnit_of_isNormal h, fun hdot hzero => ?_, fun hinfinite => ?_,
    normalize_of_underflow h⟩
  · exact length_normalize_near h hdot (dot_self_pos h hdot (Bool.eq_false_iff.1 hzero))
  · refine isZero_of_overflow h fun hdot => ?_
    have hmagnitude : (v.dot v).magnitude = Format.single.infinityMagnitude :=
      beq_iff_eq.1 hinfinite
    exact lt_irrefl _ (hmagnitude ▸ of_decide_eq_true hdot)

/-- A vector of moderate size in no particular direction. -/
theorem normalize_isUnit_moderate : (⟨3, -4, 5⟩ : Vec3 Single).normalize.IsUnit :=
  (normalize_isUnit ⟨3, -4, 5⟩ (by decide +kernel)).2.1 (by decide +kernel)

/-- **Not every vector is normalized**: the square of `2 ^ 100` is beyond the range. -/
theorem normalize_not_unit : ¬∀ v : Vec3 Single, v.isFinite = true → ¬v.All (·.isZero = true) →
    v.normalize.IsUnit := by
  intro h
  have hunit := h ⟨⟨0x71800000#32⟩, 0, 0⟩ (by decide +kernel) fun hzero =>
    absurd hzero.1 (by decide +kernel)
  -- what comes out is zero, and so its norm is off by one
  have hlength : (⟨⟨0x71800000#32⟩, 0, 0⟩ : Vec3 Single).normalize.length.isZero = true := by
    decide +kernel
  have hnear := hunit.length_near
  rw [Binary.value_of_isZero hlength] at hnear
  norm_num at hnear

end Vec3

end GlBridge
