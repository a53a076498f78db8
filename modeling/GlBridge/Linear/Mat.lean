import GlBridge.Bounds
import GlBridge.Linear.Vec
import GlBridge.Text.Bytes

/-!
# Matrices

A matrix is kept as four columns, the order in which GL takes it: the translation of
an affine transform is its last column. `Mat4.ofRows` builds one from its rows, as it
is written on paper.

* `Mat4.hadamard` multiplies entry by entry and is no matrix product; `Mat4.mulVec` is
  the product with a column vector.
* `Mat4.bytes` is what is uploaded: the columns one after the other, every entry as its
  little-endian word.
-/

namespace GlBridge

variable {α β : Type}

/-- A matrix of four columns. -/
@[ext] structure Mat4 (α : Type) where
  c0 : Vec4 α
  c1 : Vec4 α
  c2 : Vec4 α
  c3 : Vec4 α
  deriving DecidableEq

/-- The bytes of a 32-bit word, the least significant one first. -/
def Single.bytes (x : Single) : Bytes :=
  let n := x.bits.toNat
  [UInt8.ofNat n, UInt8.ofNat (n >>> 8), UInt8.ofNat (n >>> 16), UInt8.ofNat (n >>> 24)]

namespace Mat4

instance [BEq α] : BEq (Mat4 α) :=
  ⟨fun a b => a.c0 == b.c0 && a.c1 == b.c1 && a.c2 == b.c2 && a.c3 == b.c3⟩

/-- The matrix that changes nothing. -/
def identity [OfNat α 0] [OfNat α 1] : Mat4 α :=
  ⟨⟨1, 0, 0, 0⟩, ⟨0, 1, 0, 0⟩, ⟨0, 0, 1, 0⟩, ⟨0, 0, 0, 1⟩⟩

/-- The matrix of zeros. -/
def zero [OfNat α 0] : Mat4 α := ⟨⟨0, 0, 0, 0⟩, ⟨0, 0, 0, 0⟩, ⟨0, 0, 0, 0⟩, ⟨0, 0, 0, 0⟩⟩

/-- Rows and columns exchanged. -/
def transpose (m : Mat4 α) : Mat4 α :=
  ⟨⟨m.c0.x, m.c1.x, m.c2.x, m.c3.x⟩, ⟨m.c0.y, m.c1.y, m.c2.y, m.c3.y⟩,
    ⟨m.c0.z, m.c1.z, m.c2.z, m.c3.z⟩, ⟨m.c0.w, m.c1.w, m.c2.w, m.c3.w⟩⟩

/-- The matrix with the given rows. -/
def ofRows (r0 r1 r2 r3 : Vec4 α) : Mat4 α := transpose ⟨r0, r1, r2, r3⟩

/-- Applies a function to every entry. -/
def map (f : α → β) (m : Mat4 α) : Mat4 β := ⟨m.c0.map f, m.c1.map f, m.c2.map f, m.c3.map f⟩

/-- The product entry by entry. -/
def hadamard [Mul α] (a b : Mat4 α) : Mat4 α :=
  ⟨a.c0.zipWith (· * ·) b.c0, a.c1.zipWith (· * ·) b.c1, a.c2.zipWith (· * ·) b.c2,
    a.c3.zipWith (· * ·) b.c3⟩

/-- The product with a column vector. The columns are added up from the first to the
last, beginning with zero. -/
def mulVec [Add α] [Mul α] [OfNat α 0] (m : Mat4 α) (v : Vec4 α) : Vec4 α :=
  let add (sum column : Vec4 α) (factor : α) : Vec4 α :=
    sum.zipWith (· + ·) (column.map (· * factor))
  add (add (add (add ⟨0, 0, 0, 0⟩ m.c0 v.x) m.c1 v.y) m.c2 v.z) m.c3 v.w

/-- The image of a point. The result is divided by its last component unless that is
zero or one. -/
def transformPoint (m : Mat4 Single) (p : Vec3 Single) : Vec3 Single :=
  let v := m.mulVec ⟨p.x, p.y, p.z, 1⟩
  if v.w == 0 || v.w == 1 then ⟨v.x, v.y, v.z⟩ else ⟨v.x / v.w, v.y / v.w, v.z / v.w⟩

/-- The translation of an affine transform. -/
def translation (m : Mat4 α) : Vec3 α := ⟨m.c3.x, m.c3.y, m.c3.z⟩

/-- Adds `v` to the translation. -/
def translate [Add α] (m : Mat4 α) (v : Vec3 α) : Mat4 α :=
  { m with c3 := ⟨m.c3.x + v.x, m.c3.y + v.y, m.c3.z + v.z, m.c3.w⟩ }

/-- The entries, column by column. -/
def toList (m : Mat4 α) : List α := m.c0.toList ++ m.c1.toList ++ m.c2.toList ++ m.c3.toList

/-- What is uploaded for a matrix. -/
def bytes (m : Mat4 Single) : Bytes := m.toList.flatMap Single.bytes

/-- A column by its position. -/
def column (m : Mat4 α) : Nat → Except OutOfBounds (Vec4 α)
  | 0 => .ok m.c0
  | 1 => .ok m.c1
  | 2 => .ok m.c2
  | 3 => .ok m.c3
  | index => .error ⟨4, index⟩

/-- Changes a component by its position. -/
def setComponent (v : Vec4 α) (x : α) : Nat → Except OutOfBounds (Vec4 α)
  | 0 => .ok { v with x := x }
  | 1 => .ok { v with y := x }
  | 2 => .ok { v with z := x }
  | 3 => .ok { v with w := x }
  | index => .error ⟨4, index⟩

/-- Changes the entry in column `c` and row `r`. The column is looked up first. -/
def set (m : Mat4 α) (c r : Nat) (x : α) : Except OutOfBounds (Mat4 α) := do
  let changed ← setComponent (← m.column c) x r
  match c with
  | 0 => return { m with c0 := changed }
  | 1 => return { m with c1 := changed }
  | 2 => return { m with c2 := changed }
  | _ => return { m with c3 := changed }

end Mat4

end GlBridge
