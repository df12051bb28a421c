import WildlifeWarning.Level
import WildlifeWarning.Parameters

/-! The activity field: one bounded variable per cell, grown by detections and decaying each second
toward the floor, and its threshold classes. -/

namespace WildlifeWarning

/-- Cell values, row by row from the road. -/
structure ActivityGrid where
  values : Array Single
  deriving DecidableEq

namespace ActivityGrid

def atFloor (p : Parameters) : ActivityGrid :=
  ⟨Array.replicate (p.grid.rows * p.grid.cols) p.activityMin⟩

def value? (p : Parameters) (g : ActivityGrid) (c : Cell) : Option Single :=
  if p.grid.Contains c then g.values[p.grid.index c]? else none

/-- A product brought back into the bounds of the field, the floor last. -/
def grown (p : Parameters) (factor value : Single) : Single :=
  ((value * factor).least p.activityMax).greatest p.activityMin

/-- A cell at or below the floor is left alone. -/
def decayed (p : Parameters) (factor value : Single) : Single :=
  if value > p.activityMin then (value * factor).greatest p.activityMin else value

/-- Multiplies a cell; a cell off the grid changes nothing. -/
def grow (p : Parameters) (g : ActivityGrid) (c : Cell) (factor : Single) : ActivityGrid :=
  if p.grid.Contains c then ⟨g.values.modify (p.grid.index c) (grown p factor)⟩ else g

def decay (p : Parameters) (g : ActivityGrid) (factor : Single) : ActivityGrid :=
  ⟨g.values.map (decayed p factor)⟩

@[simp] theorem size_grow (p : Parameters) (g : ActivityGrid) (c : Cell) (factor : Single) :
    (g.grow p c factor).values.size = g.values.size := by
  unfold grow
  split <;> simp

@[simp] theorem size_decay (p : Parameters) (g : ActivityGrid) (factor : Single) :
    (g.decay p factor).values.size = g.values.size := by
  simp [decay]

theorem value?_grow_self (p : Parameters) (g : ActivityGrid) (c : Cell) (factor : Single) :
    (g.grow p c factor).value? p c = (g.value? p c).map (grown p factor) := by
  unfold value? grow
  split <;> simp_all [Array.getElem?_modify]

theorem value?_grow_of_ne {p : Parameters} {g : ActivityGrid} {c d : Cell} (ne : c ≠ d)
    (factor : Single) : (g.grow p c factor).value? p d = g.value? p d := by
  unfold grow
  split
  · next inside =>
    unfold value?
    split
    · next inside' =>
      have apart : p.grid.index c ≠ p.grid.index d := fun same =>
        ne ((Layout.index_inj inside inside').1 same)
      rw [Array.getElem?_modify, if_neg apart]
    · rfl
  · rfl

def isRoadside (c : Cell) : Bool := c.row == 0

def classOf (possible detection value : Single) : Classification :=
  if value < possible then .idle else if value > detection then .detected else .possible

/-- The class of a cell; off the grid all is idle. -/
def classify (p : Parameters) (g : ActivityGrid) (c : Cell) : Classification :=
  match g.value? p c with
  | none => .idle
  | some value =>
    if isRoadside c then classOf p.possibleRoadside p.detectionRoadside value
    else classOf p.possibleInland p.detectionInland value

def classes (p : Parameters) (g : ActivityGrid) : List Classification :=
  p.grid.cells.map (g.classify p)

end ActivityGrid

end WildlifeWarning
