/-!
# Positions out of range

The failure of taking an element at a position that a sequence does not have.
-/

namespace GlBridge

/-- There is no element at position `index` among `size` ones. -/
structure OutOfBounds where
  size : Nat
  index : Nat
  deriving DecidableEq, Repr

/-- The wording of the failure. -/
def OutOfBounds.message (e : OutOfBounds) : String :=
  "index out of bounds: the len is " ++ toString e.size ++ " but the index is " ++ toString e.index

end GlBridge
