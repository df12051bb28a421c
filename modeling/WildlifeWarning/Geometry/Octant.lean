/-! Rotations in eighths of a turn, and the four of them that a sensor can look along.
Rotations add modulo a full turn, which is the addition of `Fin 8`. -/

namespace WildlifeWarning

/-- A rotation counted in steps of 45 degrees. -/
abbrev Octant := Fin 8

inductive Facing where
  | up
  | right
  | down
  | left
  deriving DecidableEq, Repr

namespace Octant

def ofBits (byte : UInt8) : Octant := ⟨byte.toNat % 8, Nat.mod_lt _ (by decide)⟩

def ofNat? (n : Nat) : Option Octant := if h : n < 8 then some ⟨n, h⟩ else none

def toByte (o : Octant) : UInt8 := UInt8.ofNat o.val

@[simp] theorem ofBits_toByte : ∀ o : Octant, ofBits o.toByte = o := by decide

def degrees (o : Octant) : Nat := o.val * 45

def text (o : Octant) : String := toString o.degrees ++ "°"

def facing? (o : Octant) : Option Facing :=
  match o with
  | 0 => some .up
  | 2 => some .right
  | 4 => some .down
  | 6 => some .left
  | _ => none

end Octant

namespace Facing

def octant : Facing → Octant
  | up => 0
  | right => 2
  | down => 4
  | left => 6

def turn : Facing → Facing
  | up => right
  | right => down
  | down => left
  | left => up

def opposite (f : Facing) : Facing := f.turn.turn

theorem facing?_add_two (o : Octant) : (o + 2).facing? = o.facing?.map turn := by
  revert o
  decide

/-- The neighbouring node place, as a change of x and y. Up is toward the road. -/
def step : Facing → Int × Int
  | up => (0, 1)
  | right => (1, 0)
  | down => (0, -1)
  | left => (-1, 0)

end Facing

end WildlifeWarning
