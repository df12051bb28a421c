import WildlifeWarning.Geometry.Layout

/-! What lies ahead of a place.
A cell that touches the corner of a place lies to one side of it along each axis, so the cells ahead
and behind are a partition, and those between two neighbouring places lie ahead of both. -/

namespace WildlifeWarning

namespace Position

/-- The place `n` nodes away still has coordinates. -/
def HasPlace (p : Position) (f : Facing) (n : Int8) : Prop :=
  (-128 ≤ p.x.toInt + f.step.1 * n.toInt ∧ p.x.toInt + f.step.1 * n.toInt ≤ 127) ∧
    -128 ≤ p.y.toInt + f.step.2 * n.toInt ∧ p.y.toInt + f.step.2 * n.toInt ≤ 127

variable {p : Position} {f : Facing} {n : Int8}

theorem HasPlace.stepped_x (forward : 0 ≤ n.toInt) (place : p.HasPlace f n) :
    (p.stepped f n).x.toInt = p.x.toInt + f.step.1 * n.toInt := by
  have small := toInt_bounds n
  have range := place.1
  simp only [stepped, toInt_clampByte]
  cases f <;> simp only [Facing.step] at range ⊢ <;> omega

theorem HasPlace.stepped_y (forward : 0 ≤ n.toInt) (place : p.HasPlace f n) :
    (p.stepped f n).y.toInt = p.y.toInt + f.step.2 * n.toInt := by
  have small := toInt_bounds n
  have range := place.2
  simp only [stepped, toInt_clampByte]
  cases f <;> simp only [Facing.step] at range ⊢ <;> omega

end Position

def Cell.corners (c : Cell) : List (Int × Int) :=
  [c.upperLeft, (c.col + 1, c.row), (c.col, c.row + 1), (c.col + 1, c.row + 1)]

namespace Layout

variable {l : Layout} {p : Position} {f : Facing} {c : Cell}

/-- From the corner of a place to the middle of a cell, to the right and toward the road, counted in
half cells. -/
def aim (l : Layout) (p : Position) (c : Cell) : Int × Int :=
  (2 * c.col + 1 - 2 * (l.corner p).1, 2 * (l.corner p).2 - (2 * c.row + 1))

theorem corner_mem_corners_iff :
    l.corner p ∈ c.corners ↔
      ((l.aim p c).1 = 1 ∨ (l.aim p c).1 = -1) ∧ ((l.aim p c).2 = 1 ∨ (l.aim p c).2 = -1) := by
  simp only [Cell.corners, Cell.upperLeft, aim, List.mem_cons, List.not_mem_nil, or_false,
    Prod.ext_iff]
  omega

theorem mem_ahead_iff :
    c ∈ l.ahead p f ↔ l.Contains c ∧ l.corner p ∈ c.corners ∧
      f.step.1 * (l.aim p c).1 + f.step.2 * (l.aim p c).2 = 1 := by
  have among : ∀ a b : Int × Int, c ∈ [a, b].filterMap l.cell? ↔
      l.Contains c ∧ (a = c.upperLeft ∨ b = c.upperLeft) := by
    intro a b
    simp only [List.mem_filterMap, List.mem_cons, List.not_mem_nil, or_false, exists_eq_or_imp,
      exists_eq_left, cell?_eq_some_iff, and_or_left]
  rw [corner_mem_corners_iff]
  cases f <;> simp only [ahead, among, aim, Cell.upperLeft, Facing.step, Prod.ext_iff] <;>
    exact and_congr_right fun _ => by omega

theorem step_opposite (f : Facing) : f.opposite.step = (-f.step.1, -f.step.2) := by
  cases f <;> rfl

theorem aim_stepped (place : p.HasPlace f 1) (c : Cell) :
    l.aim (p.stepped f 1) c =
      ((l.aim p c).1 - 2 * f.step.1, (l.aim p c).2 - 2 * f.step.2) := by
  have x := place.stepped_x (by decide)
  have y := place.stepped_y (by decide)
  have one : (1 : Int8).toInt = 1 := rfl
  simp only [one] at x y
  simp only [aim, corner, x, y, Prod.mk.injEq]
  omega

theorem mem_ahead_stepped (place : p.HasPlace f 1) :
    c ∈ l.ahead (p.stepped f 1) f.opposite ↔ c ∈ l.ahead p f := by
  rw [mem_ahead_iff, mem_ahead_iff, corner_mem_corners_iff, corner_mem_corners_iff,
    aim_stepped place, step_opposite]
  cases f <;> simp only [Facing.step] <;> exact and_congr_right fun _ => by omega

theorem mem_ahead_or_opposite :
    c ∈ l.ahead p f ∨ c ∈ l.ahead p f.opposite ↔ l.Contains c ∧ l.corner p ∈ c.corners := by
  rw [mem_ahead_iff, mem_ahead_iff, corner_mem_corners_iff, step_opposite, ← and_or_left]
  cases f <;> simp only [Facing.step] <;> exact and_congr_right fun _ => by omega

theorem not_mem_ahead_opposite (here : c ∈ l.ahead p f) : c ∉ l.ahead p f.opposite := by
  intro there
  have forward := (mem_ahead_iff.1 here).2.2
  have backward := (mem_ahead_iff.1 there).2.2
  rw [step_opposite] at backward
  simp only [Int.neg_mul] at backward
  omega

/-- Two nodes that face each other across an edge see the same cells. What a node sees along a
facing and along its opposite are, each cell once, the cells of the grid on the node's corner. -/
theorem ahead_across (l : Layout) (p : Position) (f : Facing) :
    (p.HasPlace f 1 → ∀ c, c ∈ l.ahead p f ↔ c ∈ l.ahead (p.stepped f 1) f.opposite) ∧
    (l.ahead p f ++ l.ahead p f.opposite).Nodup ∧
    ∀ c, c ∈ l.ahead p f ++ l.ahead p f.opposite ↔ l.Contains c ∧ l.corner p ∈ c.corners := by
  refine ⟨fun place c => (mem_ahead_stepped place).symm, ?_, fun c => ?_⟩
  · apply List.nodup_append.2 ⟨nodup_ahead l p f, nodup_ahead l p f.opposite, ?_⟩
    intro c here d there same
    exact not_mem_ahead_opposite here (same ▸ there)
  · rw [List.mem_append]
    exact mem_ahead_or_opposite

/-- A layout that is not square, from its left edge: the place to the left is off the grid, the one
to the right is not. -/
theorem ahead_across_edge :
    let l : Layout := ⟨4, 7⟩
    let p : Position := ⟨-2, 1⟩
    p.HasPlace .right 1 ∧ l.ahead p .right = [⟨0, 2⟩, ⟨0, 1⟩] ∧ l.ahead p .left = [] ∧
      (∀ c, c ∈ l.ahead p .right ↔ c ∈ l.ahead ⟨-1, 1⟩ .left) ∧
      ∀ c, c ∈ l.ahead p .right ++ l.ahead p .left ↔ l.Contains c ∧ l.corner p ∈ c.corners := by
  intro l p
  have place : p.HasPlace .right 1 := by
    unfold Position.HasPlace
    decide
  obtain ⟨across, -, all⟩ := ahead_across l p .right
  exact ⟨place, by decide, by decide, across place, all⟩

end Layout

end WildlifeWarning
