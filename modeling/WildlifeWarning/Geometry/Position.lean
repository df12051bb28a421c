import WildlifeWarning.Geometry.Octant

/-! Node places on the provisioned grid and fine corrections to them.
Coordinates are signed bytes; a step that would leave their range stops at its end. -/

namespace WildlifeWarning

theorem toInt_bounds (n : Int8) : -128 ≤ n.toInt ∧ n.toInt ≤ 127 :=
  ⟨n.minValue_le_toInt, n.toInt_le⟩

/-- The signed byte nearest to `n`. -/
def clampByte (n : Int) : Int8 := Int8.ofInt (max (-128) (min 127 n))

theorem toInt_clampByte (n : Int) : (clampByte n).toInt = max (-128) (min 127 n) := by
  rw [clampByte, Int8.toInt_ofInt_of_le] <;> omega

@[ext]
structure Position where
  x : Int8
  y : Int8
  deriving DecidableEq

/-- A node's distance from its place, in units of the configured offset scale. -/
structure Offset where
  x : Int8
  y : Int8
  deriving DecidableEq

namespace Position

/-- The place `n` nodes away. The way there and each coordinate stop at the ends of a byte. -/
def stepped (p : Position) (facing : Facing) (n : Int8) : Position :=
  let (dx, dy) := facing.step
  ⟨clampByte (p.x.toInt + (clampByte (dx * n.toInt)).toInt),
    clampByte (p.y.toInt + (clampByte (dy * n.toInt)).toInt)⟩

end Position

namespace Offset

def zero : Offset := ⟨0, 0⟩

/-- The part of the offset that lies along `facing`. -/
def along (o : Offset) (facing : Facing) : Int :=
  let (dx, dy) := facing.step
  dx * o.x.toInt + dy * o.y.toInt

end Offset

end WildlifeWarning
