import GlBridge.Linear.View
import GlBridge.Proofs.Linear.Normalize

/-!
# What is left of a camera

`Mat4.lookAt` multiplies a rotation and a translation entry by entry. The translation has ones on
its diagonal and zeros off it, save for the last column, where the rotation has its zeros. So what
is left is the diagonal of the rotation, and neither the rest of the rotation nor the position of
the camera (`lookAt_isDiagonal`).

Over floating-point words this is not a matter of course: zero times infinity is no zero, so it
takes finite axes and a finite position. `TrivialFactors` lists all that is used of the arithmetic,
which is that a factor of one changes nothing and a factor of zero leaves a zero, and
`Mat4.isDiagonal_placed` proves the shape from that alone. The axes enter as they are, however they
were computed; they are finite if the differences and products that they are computed from are
(`CameraAxes.allFinite_towards`).
-/

namespace GlBridge

/-! ### The axes of a camera -/

/-- Three vectors that a camera is placed along. -/
structure CameraAxes (α : Type) where
  x : Vec3 α
  y : Vec3 α
  z : Vec3 α

/-- The axes of the camera at `eye` that looks at `center`: against the line of sight, and
perpendicular to it. -/
def CameraAxes.towards (eye center up : Vec3 Single) : CameraAxes Single :=
  let z := (eye - center).normalize
  let x := (up.cross z).normalize
  ⟨x, (z.cross x).normalize, z⟩

/-- All components of the axes are numbers. -/
structure CameraAxes.AllFinite (axes : CameraAxes Single) : Prop where
  x : axes.x.isFinite = true
  y : axes.y.isFinite = true
  z : axes.z.isFinite = true

/-- The axes are numbers whenever the vectors are that they have the directions of. -/
theorem CameraAxes.allFinite_towards {eye center up : Vec3 Single}
    (hz : (eye - center).isFinite = true)
    (hx : (up.cross (towards eye center up).z).isFinite = true)
    (hy : ((towards eye center up).z.cross (towards eye center up).x).isFinite = true) :
    (towards eye center up).AllFinite := by
  have hx' := Vec3.isFinite_normalize hx
  have hy' := Vec3.isFinite_normalize hy
  have hz' := Vec3.isFinite_normalize hz
  -- both sides are opened alike, since no axis is to be computed in order to compare them
  dsimp only [towards] at hx' hy' ⊢
  constructor <;> dsimp only
  case x => exact hx'
  case y => exact hy'
  case z => exact hz'

/-! ### The shape -/

/-- The diagonal has the given entries, and all others are zeros. -/
structure Mat4.IsDiagonal {α : Type} (isZero : α → Prop) (m : Mat4 α) (diagonal : Vec4 α) :
    Prop where
  first : m.c0.x = diagonal.x ∧ isZero m.c0.y ∧ isZero m.c0.z ∧ isZero m.c0.w
  second : isZero m.c1.x ∧ m.c1.y = diagonal.y ∧ isZero m.c1.z ∧ isZero m.c1.w
  third : isZero m.c2.x ∧ isZero m.c2.y ∧ m.c2.z = diagonal.z ∧ isZero m.c2.w
  fourth : isZero m.c3.x ∧ isZero m.c3.y ∧ isZero m.c3.z ∧ m.c3.w = diagonal.w

section Combination

variable {α : Type} [Mul α] [Neg α] [OfNat α 0] [OfNat α 1]

/-- What a product entry by entry has to know of the arithmetic: among the numbers, one keeps
what it is multiplied with, and zero does not. -/
structure TrivialFactors (isNumber isZero : α → Prop) : Prop where
  number_one : isNumber 1
  number_zero : isNumber 0
  number_neg : ∀ a, isNumber a → isNumber (-a)
  mul_one : ∀ a, isNumber a → a * 1 = a
  mul_zero : ∀ a, isNumber a → isZero (a * 0)
  zero_mul : ∀ a, isNumber a → isZero (0 * a)

/-- The rotation to the axes and the translation by `-eye`, multiplied entry by entry. -/
def CameraAxes.placed (axes : CameraAxes α) (eye : Vec3 α) : Mat4 α :=
  (Mat4.ofRows ⟨axes.x.x, axes.x.y, axes.x.z, 0⟩ ⟨axes.y.x, axes.y.y, axes.y.z, 0⟩
      ⟨axes.z.x, axes.z.y, axes.z.z, 0⟩ ⟨0, 0, 0, 1⟩).hadamard
    (Mat4.ofRows ⟨1, 0, 0, -eye.x⟩ ⟨0, 1, 0, -eye.y⟩ ⟨0, 0, 1, -eye.z⟩ ⟨0, 0, 0, 1⟩)

/-- **Only the diagonal is left**, in any arithmetic with factors of one and of zero. -/
theorem Mat4.isDiagonal_placed {isNumber isZero : α → Prop} (h : TrivialFactors isNumber isZero)
    {axes : CameraAxes α} {eye : Vec3 α} (hx : axes.x.All isNumber) (hy : axes.y.All isNumber)
    (hz : axes.z.All isNumber) (heye : eye.All isNumber) :
    (axes.placed eye).IsDiagonal isZero ⟨axes.x.x, axes.y.y, axes.z.z, 1⟩ := by
  obtain ⟨hxx, hxy, hxz⟩ := hx
  obtain ⟨hyx, hyy, hyz⟩ := hy
  obtain ⟨hzx, hzy, hzz⟩ := hz
  obtain ⟨hex, hey, hez⟩ := heye
  have hlast := h.mul_zero 0 h.number_zero
  constructor
  -- a column of the rotation meets one one of the translation, and zeros
  · exact ⟨h.mul_one _ hxx, h.mul_zero _ hyx, h.mul_zero _ hzx, hlast⟩
  · exact ⟨h.mul_zero _ hxy, h.mul_one _ hyy, h.mul_zero _ hzy, hlast⟩
  · exact ⟨h.mul_zero _ hxz, h.mul_zero _ hyz, h.mul_one _ hzz, hlast⟩
  -- the position meets the zeros of the rotation
  · exact ⟨h.zero_mul _ (h.number_neg _ hex), h.zero_mul _ (h.number_neg _ hey),
      h.zero_mul _ (h.number_neg _ hez), h.mul_one _ h.number_one⟩

end Combination

/-! ### Words -/

namespace Single

/-- Floating-point words that are numbers multiply in this way. -/
theorem trivialFactors :
    TrivialFactors (fun x : Single => x.isFinite = true) (fun x => x.isZero = true) where
  number_one := isFinite_one
  number_zero := isFinite_zero
  number_neg _ := isFinite_neg
  mul_one _ := mul_one
  mul_zero _ h := Binary.isZero_mul h isFinite_zero (.inr isZero_zero)
  zero_mul _ h := Binary.isZero_mul isFinite_zero h (.inl isZero_zero)

end Single

/-- A vector of zeros equals the zero vector as numbers do, whatever the signs are. -/
theorem Vec3.beq_zero {v : Vec3 Single} (h : v.All (·.isZero = true)) :
    (v == Vec3.zero) = true := by
  obtain ⟨hx, hy, hz⟩ := h
  show (v.x == 0 && v.y == 0 && v.z == 0) = true
  rw [Single.beq_zero hx, Single.beq_zero hy, Single.beq_zero hz]
  rfl

/-- **A view matrix is the diagonal of its rotation.** For a camera in a finite position with finite
axes, the entries on the diagonal are those of the axes, bit for bit, with a one at the end; the
other twelve are zeros of either sign, and so the translation is zero. Once there are axes, the
view matrix is put together from them by factors of one and of zero alone, and every arithmetic
that has these makes it diagonal. -/
theorem lookAt_isDiagonal (eye center up : Vec3 Single) (heye : eye.isFinite = true)
    (haxes : (CameraAxes.towards eye center up).AllFinite) :
    (Mat4.lookAt eye center up).IsDiagonal (·.isZero = true)
      ⟨(CameraAxes.towards eye center up).x.x, (CameraAxes.towards eye center up).y.y,
        (CameraAxes.towards eye center up).z.z, 1⟩ ∧
    ((Mat4.lookAt eye center up).translation == Vec3.zero) = true ∧
    Mat4.lookAt eye center up = (CameraAxes.towards eye center up).placed eye ∧
    ∀ {α : Type} [Mul α] [Neg α] [OfNat α 0] [OfNat α 1] (isNumber isZero : α → Prop),
      TrivialFactors isNumber isZero → ∀ (axes : CameraAxes α) (position : Vec3 α),
        axes.x.All isNumber → axes.y.All isNumber → axes.z.All isNumber →
        position.All isNumber →
          (axes.placed position).IsDiagonal isZero ⟨axes.x.x, axes.y.y, axes.z.z, 1⟩ := by
  have hplaced : Mat4.lookAt eye center up = (CameraAxes.towards eye center up).placed eye := rfl
  have hdiagonal := Mat4.isDiagonal_placed Single.trivialFactors (Vec3.isFinite_iff.1 haxes.x)
    (Vec3.isFinite_iff.1 haxes.y) (Vec3.isFinite_iff.1 haxes.z) (Vec3.isFinite_iff.1 heye)
  refine ⟨hplaced ▸ hdiagonal, ?_, hplaced, ?_⟩
  · obtain ⟨htx, hty, htz, -⟩ := hdiagonal.fourth
    exact hplaced ▸ Vec3.beq_zero ⟨htx, hty, htz⟩
  · intro α _ _ _ _ isNumber isZero h axes position hx hy hz hposition
    exact Mat4.isDiagonal_placed h hx hy hz hposition

/-- A camera that is not aligned with any axis, and its position left out. -/
theorem lookAt_isDiagonal_oblique :
    ((Mat4.lookAt ⟨3, 4, 5⟩ ⟨0, 0, 0⟩ ⟨0, 1, 0⟩).translation == Vec3.zero) = true :=
  (lookAt_isDiagonal ⟨3, 4, 5⟩ ⟨0, 0, 0⟩ ⟨0, 1, 0⟩ (by decide +kernel)
    (CameraAxes.allFinite_towards (by decide +kernel) (by decide +kernel)
      (by decide +kernel))).2.1

end GlBridge
