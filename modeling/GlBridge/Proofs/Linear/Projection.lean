import GlBridge.Linear.View
import Mathlib.Algebra.Order.Field.Basic
import Mathlib.Data.Rat.Cast.Order
import Mathlib.Tactic.Linarith
import Mathlib.Tactic.Positivity
import Mathlib.Tactic.Ring

/-!
# The volumes that are projected

A projection decides what can be seen: a point is kept if its image lies in the clip volume. Over
the rationals, where nothing is rounded, the builders keep just the points they are asked for
(`projections_carve_out`). For `Mat4.frustumEntries` these are the points between the near and the
far plane that lie behind the given rectangle as seen from the origin; for `Mat4.orthoEntries` they
are the points of a box.

Each axis but one goes by the same rule. The interval from `lo` to `hi`, stretched with the
distance `d`, is carried to the one from `-d` to `d` (`neg_le_and_le_iff`); a parallel projection
has `d = 1`, and looks along the negative third axis. Only the depth of a perspective projection is
different, since it is not linear in the distance (`depth_neg_le_and_le_iff`).
-/

namespace GlBridge

/-! ### Volumes -/

/-- A point in homogeneous coordinates. -/
def Vec3.point (p : Vec3 Rat) : Vec4 Rat := ⟨p.x, p.y, p.z, 1⟩

/-- A point that clipping keeps: no component is greater than the last one, which is positive. -/
structure Vec4.InClipVolume (v : Vec4 Rat) : Prop where
  w_pos : 0 < v.w
  x_mem : -v.w ≤ v.x ∧ v.x ≤ v.w
  y_mem : -v.w ≤ v.y ∧ v.y ≤ v.w
  z_mem : -v.w ≤ v.z ∧ v.z ≤ v.w

/-- The first three components lie between `-1` and `1`. -/
structure Vec4.InUnitCube (v : Vec4 Rat) : Prop where
  x_mem : -1 ≤ v.x ∧ v.x ≤ 1
  y_mem : -1 ≤ v.y ∧ v.y ≤ 1
  z_mem : -1 ≤ v.z ∧ v.z ≤ 1

/-- A point between two planes at the distances `near` and `far` in front of the origin, whose ray
from the origin meets the near plane in the rectangle from `(left, bottom)` to `(right, top)`. -/
structure Vec3.InFrustum (left right bottom top near far : Rat) (p : Vec3 Rat) : Prop where
  depth : near ≤ -p.z ∧ -p.z ≤ far
  width : left * -p.z ≤ near * p.x ∧ near * p.x ≤ right * -p.z
  height : bottom * -p.z ≤ near * p.y ∧ near * p.y ≤ top * -p.z

/-- A point of a box in front of the origin. -/
structure Vec3.InBox (left right bottom top near far : Rat) (p : Vec3 Rat) : Prop where
  width : left ≤ p.x ∧ p.x ≤ right
  height : bottom ≤ p.y ∧ p.y ≤ top
  depth : near ≤ -p.z ∧ -p.z ≤ far

/-! ### One axis -/

/-- **An interval is carried to the symmetric one**, both stretched with the distance `d`. -/
theorem neg_le_and_le_iff {lo hi : Rat} (h : lo < hi) (u d : Rat) :
    (-d ≤ (2 * u - (hi + lo) * d) / (hi - lo) ∧ (2 * u - (hi + lo) * d) / (hi - lo) ≤ d) ↔
      lo * d ≤ u ∧ u ≤ hi * d := by
  have hpos : 0 < hi - lo := sub_pos.2 h
  rw [le_div_iff₀ hpos, div_le_iff₀ hpos]
  constructor
  · rintro ⟨hlow, hhigh⟩
    constructor <;> linarith
  · rintro ⟨hlow, hhigh⟩
    constructor <;> linarith

/-- The depth of a perspective projection: the planes at the distances `near` and `far` are
carried to the two ends. -/
theorem depth_neg_le_and_le_iff {near far : Rat} (hnear : 0 < near) (h : near < far) (d : Rat) :
    (-d ≤ ((far + near) * d - 2 * far * near) / (far - near) ∧
      ((far + near) * d - 2 * far * near) / (far - near) ≤ d) ↔ near ≤ d ∧ d ≤ far := by
  have hpos : 0 < far - near := sub_pos.2 h
  have hfar : 0 < far := hnear.trans h
  rw [le_div_iff₀ hpos, div_le_iff₀ hpos]
  constructor
  · rintro ⟨hlow, hhigh⟩
    -- the one bound is a multiple of `far`, the other one of `near`
    have hlow' : far * near ≤ far * d := by linarith
    have hhigh' : near * d ≤ near * far := by linarith
    exact ⟨le_of_mul_le_mul_left hlow' hfar, le_of_mul_le_mul_left hhigh' hnear⟩
  · rintro ⟨hlow, hhigh⟩
    have hlow' : far * near ≤ far * d := mul_le_mul_of_nonneg_left hlow hfar.le
    have hhigh' : near * d ≤ near * far := mul_le_mul_of_nonneg_left hhigh hnear.le
    constructor <;> linarith

/-! ### Images of points -/

namespace Mat4

variable (left right bottom top near far : Rat) (p : Vec3 Rat)

/-- The image of a point under the perspective projection. -/
theorem mulVec_frustumEntries :
    (frustumEntries left right bottom top near far).mulVec p.point =
      ⟨(2 * (near * p.x) - (right + left) * -p.z) / (right - left),
        (2 * (near * p.y) - (top + bottom) * -p.z) / (top - bottom),
        ((far + near) * -p.z - 2 * far * near) / (far - near), -p.z⟩ := by
  unfold mulVec frustumEntries ofRows transpose Vec4.zipWith Vec4.map Vec3.point
  ext <;> dsimp only <;> ring

/-- The image of a point under the parallel projection. -/
theorem mulVec_orthoEntries :
    (orthoEntries left right bottom top near far).mulVec p.point =
      ⟨(2 * p.x - (right + left) * 1) / (right - left),
        (2 * p.y - (top + bottom) * 1) / (top - bottom),
        (2 * -p.z - (far + near) * 1) / (far - near), 1⟩ := by
  unfold mulVec orthoEntries ofRows transpose Vec4.zipWith Vec4.map Vec3.point
  ext <;> dsimp only <;> ring

variable {left right bottom top near far p}

/-- The clip volume takes in the frustum. -/
theorem inClipVolume_frustumEntries (hx : left < right) (hy : bottom < top) (hnear : 0 < near)
    (hz : near < far) :
    ((frustumEntries left right bottom top near far).mulVec p.point).InClipVolume ↔
      p.InFrustum left right bottom top near far := by
  rw [mulVec_frustumEntries]
  constructor
  · rintro ⟨-, hwidth, hheight, hdepth⟩
    exact ⟨(depth_neg_le_and_le_iff hnear hz _).1 hdepth, (neg_le_and_le_iff hx _ _).1 hwidth,
      (neg_le_and_le_iff hy _ _).1 hheight⟩
  · rintro ⟨hdepth, hwidth, hheight⟩
    exact ⟨hnear.trans_le hdepth.1, (neg_le_and_le_iff hx _ _).2 hwidth,
      (neg_le_and_le_iff hy _ _).2 hheight, (depth_neg_le_and_le_iff hnear hz _).2 hdepth⟩

/-- The unit cube takes in the box. -/
theorem inUnitCube_orthoEntries (hx : left < right) (hy : bottom < top) (hz : near < far) :
    ((orthoEntries left right bottom top near far).mulVec p.point).InUnitCube ↔
      p.InBox left right bottom top near far := by
  -- the distance with which an interval is stretched is one throughout
  have haxis : ∀ {lo hi : Rat}, lo < hi → ∀ u : Rat,
      (-1 ≤ (2 * u - (hi + lo) * 1) / (hi - lo) ∧ (2 * u - (hi + lo) * 1) / (hi - lo) ≤ 1) ↔
        lo ≤ u ∧ u ≤ hi := fun {lo hi} h u => by
    rw [neg_le_and_le_iff h, mul_one, mul_one]
  rw [mulVec_orthoEntries]
  constructor
  · rintro ⟨hwidth, hheight, hdepth⟩
    exact ⟨(haxis hx _).1 hwidth, (haxis hy _).1 hheight, (haxis hz _).1 hdepth⟩
  · rintro ⟨hwidth, hheight, hdepth⟩
    exact ⟨(haxis hx _).2 hwidth, (haxis hy _).2 hheight, (haxis hz _).2 hdepth⟩

/-- **The projections carve out the volumes they are given.** Under a perspective projection the
last component of an image is the distance of the point along the line of sight, and clipping keeps
the image just when the point lies in the frustum. Under a parallel projection the last component
is one, and the image lies in the unit cube just when the point lies in the box. -/
theorem projections_carve_out (hx : left < right) (hy : bottom < top) (hz : near < far)
    (p : Vec3 Rat) :
    (0 < near →
      ((frustumEntries left right bottom top near far).mulVec p.point).w = -p.z ∧
      (((frustumEntries left right bottom top near far).mulVec p.point).InClipVolume ↔
        p.InFrustum left right bottom top near far)) ∧
    ((orthoEntries left right bottom top near far).mulVec p.point).w = 1 ∧
    (((orthoEntries left right bottom top near far).mulVec p.point).InUnitCube ↔
      p.InBox left right bottom top near far) := by
  refine ⟨fun hnear => ⟨?_, inClipVolume_frustumEntries hx hy hnear hz⟩, ?_,
    inUnitCube_orthoEntries hx hy hz⟩
  · rw [mulVec_frustumEntries]
  · rw [mulVec_orthoEntries]

/-- The far corner of a lopsided frustum is kept, and what lies beside it is not. -/
theorem projections_carve_out_corner :
    ((frustumEntries (-1) 3 (-2) 1 2 10).mulVec (Vec3.point ⟨15, 5, -10⟩)).InClipVolume ∧
      ¬((frustumEntries (-1) 3 (-2) 1 2 10).mulVec (Vec3.point ⟨16, 5, -10⟩)).InClipVolume := by
  have hx : (-1 : Rat) < 3 := by decide
  have hy : (-2 : Rat) < 1 := by decide
  have hz : (2 : Rat) < 10 := by decide
  have hcorner := (projections_carve_out hx hy hz ⟨15, 5, -10⟩).1 (by decide)
  have hbeyond := (projections_carve_out hx hy hz ⟨16, 5, -10⟩).1 (by decide)
  refine ⟨hcorner.2.2 ⟨by norm_num, by norm_num, by norm_num⟩, fun hclip => ?_⟩
  exact absurd (hbeyond.2.1 hclip).width.2 (by norm_num)

end Mat4

end GlBridge
