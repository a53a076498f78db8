import GlBridge.Binary.Arithmetic

/-!
# Vectors

Vectors of three and of four components over any type with the operations in
question. Sums of products are evaluated from left to right, which matters over
floating-point words.
-/

namespace GlBridge

variable {α β : Type}

/-- A vector in space. -/
@[ext] structure Vec3 (α : Type) where
  x : α
  y : α
  z : α
  deriving DecidableEq

/-- A vector of four components, such as a point in homogeneous coordinates or a column
of a matrix. -/
@[ext] structure Vec4 (α : Type) where
  x : α
  y : α
  z : α
  w : α
  deriving DecidableEq

namespace Vec3

instance [Add α] : Add (Vec3 α) := ⟨fun a b => ⟨a.x + b.x, a.y + b.y, a.z + b.z⟩⟩
instance [Sub α] : Sub (Vec3 α) := ⟨fun a b => ⟨a.x - b.x, a.y - b.y, a.z - b.z⟩⟩
instance [Neg α] : Neg (Vec3 α) := ⟨fun a => ⟨-a.x, -a.y, -a.z⟩⟩
instance [Mul α] : HMul (Vec3 α) α (Vec3 α) := ⟨fun a s => ⟨a.x * s, a.y * s, a.z * s⟩⟩
instance [Div α] : HDiv (Vec3 α) α (Vec3 α) := ⟨fun a s => ⟨a.x / s, a.y / s, a.z / s⟩⟩
instance [BEq α] : BEq (Vec3 α) := ⟨fun a b => a.x == b.x && a.y == b.y && a.z == b.z⟩

/-- The vector without extent. -/
def zero [OfNat α 0] : Vec3 α := ⟨0, 0, 0⟩

/-- The scalar product. -/
def dot [Add α] [Mul α] (a b : Vec3 α) : α := a.x * b.x + a.y * b.y + a.z * b.z

/-- The right-handed cross product. -/
def cross [Sub α] [Mul α] (a b : Vec3 α) : Vec3 α :=
  ⟨a.y * b.z - a.z * b.y, a.z * b.x - a.x * b.z, a.x * b.y - a.y * b.x⟩

/-- The Euclidean norm. -/
def length (v : Vec3 Single) : Single := (v.dot v).sqrt

/-- Every component is a number. -/
def isFinite (v : Vec3 Single) : Bool := v.x.isFinite && v.y.isFinite && v.z.isFinite

/-- The vector of norm one with the direction of `v`; a vector of norm zero stays as it
is. -/
def normalize (v : Vec3 Single) : Vec3 Single :=
  let norm := v.length
  if norm == 0 then v else v / norm

end Vec3

namespace Vec4

instance [BEq α] : BEq (Vec4 α) :=
  ⟨fun a b => a.x == b.x && a.y == b.y && a.z == b.z && a.w == b.w⟩

/-- Applies a function to every component. -/
def map (f : α → β) (v : Vec4 α) : Vec4 β := ⟨f v.x, f v.y, f v.z, f v.w⟩

/-- Combines two vectors component by component. -/
def zipWith (f : α → α → α) (a b : Vec4 α) : Vec4 α :=
  ⟨f a.x b.x, f a.y b.y, f a.z b.z, f a.w b.w⟩

/-- The components in order. -/
def toList (v : Vec4 α) : List α := [v.x, v.y, v.z, v.w]

end Vec4

end GlBridge
