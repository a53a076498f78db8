import GlBridge.Decimal.Shortest
import GlBridge.Linear.Mat

/-!
# View and projection matrices

`Mat4.lookAt` places the camera, `Mat4.perspective`, `Mat4.frustum` and `Mat4.ortho`
project. The projections are stated over any type with arithmetic
(`frustumEntries`, `orthoEntries`), so that they can be read exactly; the builders
evaluate them in 64 bits and round every entry to 32 bits once.
-/

namespace GlBridge

instance : OfScientific Double :=
  ⟨fun m negated e => (Decimal.mk false m (if negated then -e else e)).toDouble⟩

namespace Mat4

/-- The view matrix for a camera at `eye` that looks at `center`. The rotation and the
translation by `-eye` are multiplied entry by entry, so that of the rotation only
the diagonal is left and the translation is lost; callers rely on these values. -/
def lookAt (eye center up : Vec3 Single) : Mat4 Single :=
  let z := (eye - center).normalize
  let x := (up.cross z).normalize
  let y := (z.cross x).normalize
  let rotation := ofRows ⟨x.x, x.y, x.z, 0⟩ ⟨y.x, y.y, y.z, 0⟩ ⟨z.x, z.y, z.z, 0⟩ ⟨0, 0, 0, 1⟩
  let translation :=
    ofRows ⟨1, 0, 0, -eye.x⟩ ⟨0, 1, 0, -eye.y⟩ ⟨0, 0, 1, -eye.z⟩ ⟨0, 0, 0, 1⟩
  rotation.hadamard translation

section Projection

variable {α : Type} [Add α] [Sub α] [Mul α] [Div α] [Neg α] [OfNat α 0] [OfNat α 1] [OfNat α 2]

/-- The perspective projection of the volume behind the rectangle from `(left, bottom)` to
`(right, top)` on the plane at distance `near`, down to the distance `far`. -/
def frustumEntries (left right bottom top near far : α) : Mat4 α :=
  let x := 2 * near / (right - left)
  let y := 2 * near / (top - bottom)
  let a := (right + left) / (right - left)
  let b := (top + bottom) / (top - bottom)
  let c := -(far + near) / (far - near)
  let d := -2 * far * near / (far - near)
  ofRows ⟨x, 0, a, 0⟩ ⟨0, y, b, 0⟩ ⟨0, 0, c, d⟩ ⟨0, 0, -1, 0⟩

/-- The parallel projection of a box. -/
def orthoEntries (left right bottom top near far : α) : Mat4 α :=
  let tx := -(right + left) / (right - left)
  let ty := -(top + bottom) / (top - bottom)
  let tz := -(far + near) / (far - near)
  ofRows ⟨2 / (right - left), 0, 0, tx⟩ ⟨0, 2 / (top - bottom), 0, ty⟩
    ⟨0, 0, -2 / (far - near), tz⟩ ⟨0, 0, 0, 1⟩

end Projection

/-- A matrix of 64-bit entries with each rounded to 32 bits. -/
def toSingle (m : Mat4 Double) : Mat4 Single := m.map (Binary.convert .single)

/-- The perspective projection of a frustum. -/
def frustum (left right bottom top near far : Double) : Mat4 Single :=
  (frustumEntries left right bottom top near far).toSingle

/-- The parallel projection of a box. -/
def ortho (left right bottom top near far : Double) : Mat4 Single :=
  (orthoEntries left right bottom top near far).toSingle

/-- The perspective projection with a vertical field of view of `fovy` degrees. -/
def perspective (fovy aspect near far : Double) : Mat4 Single :=
  let ymax := near * (fovy * Double.pi / 360).tan
  let ymin := -ymax
  frustum (ymin * aspect) (ymax * aspect) ymin ymax near far

end Mat4

end GlBridge
