import WildlifeWarning.Geometry.Position

/-! The node grid and the activity cells between its nodes.
Node places are centred on zero and their y grows toward the road. Cells are counted in columns from
the left and rows from the road, so row 0 is the roadside row and a node stands on a corner of up to
four cells. -/

namespace WildlifeWarning

/-- Numbers of node columns and rows. -/
structure Layout where
  nodesX : UInt8
  nodesY : UInt8
  deriving DecidableEq

structure Cell where
  col : Nat
  row : Nat
  deriving DecidableEq, Repr

/-- The upper left corner of a cell, as node places are counted. -/
def Cell.upperLeft (c : Cell) : Int × Int := (c.col, c.row)

namespace Layout

def cols (l : Layout) : Nat := l.nodesX.toNat - 1
def rows (l : Layout) : Nat := l.nodesY.toNat - 1
def halfX (l : Layout) : Int := l.nodesX.toNat / 2
def halfY (l : Layout) : Int := l.nodesY.toNat / 2

def Contains (l : Layout) (c : Cell) : Prop := c.col < l.cols ∧ c.row < l.rows

instance (l : Layout) (c : Cell) : Decidable (l.Contains c) :=
  inferInstanceAs (Decidable (_ ∧ _))

/-- All cells, row by row from the road. -/
def cells (l : Layout) : List Cell :=
  (List.range l.rows).flatMap fun row => (List.range l.cols).map fun col => ⟨col, row⟩

@[simp] theorem mem_cells {l : Layout} {c : Cell} : c ∈ l.cells ↔ l.Contains c := by
  obtain ⟨col, row⟩ := c
  simp only [cells, Contains, List.mem_flatMap, List.mem_map, List.mem_range, Cell.mk.injEq]
  constructor
  · rintro ⟨_, hr, _, hc, rfl, rfl⟩
    exact ⟨hc, hr⟩
  · rintro ⟨hc, hr⟩
    exact ⟨row, hr, col, hc, rfl, rfl⟩

def index (l : Layout) (c : Cell) : Nat := c.row * l.cols + c.col

theorem index_lt {l : Layout} {c : Cell} (h : l.Contains c) : l.index c < l.rows * l.cols := by
  calc l.index c < (c.row + 1) * l.cols := by
        have := h.1
        simp only [index, Nat.add_mul]
        omega
    _ ≤ l.rows * l.cols := Nat.mul_le_mul_right _ h.2

theorem index_inj {l : Layout} {a b : Cell} (ha : l.Contains a) (hb : l.Contains b) :
    l.index a = l.index b ↔ a = b := by
  have col : ∀ c, l.Contains c → l.index c % l.cols = c.col := fun c h => by
    rw [index, Nat.mul_comm, Nat.mul_add_mod, Nat.mod_eq_of_lt h.1]
  have row : ∀ c, l.Contains c → l.index c / l.cols = c.row := fun c h => by
    rw [index, Nat.mul_comm, Nat.mul_add_div (Nat.zero_lt_of_lt h.1), Nat.div_eq_of_lt h.1,
      Nat.add_zero]
  constructor
  · intro same
    have cols := col a ha
    have rows := row a ha
    rw [same, col b hb] at cols
    rw [same, row b hb] at rows
    cases a
    cases b
    exact congr (congrArg Cell.mk cols.symm) rows.symm
  · rintro rfl
    rfl

theorem length_cells (l : Layout) : l.cells.length = l.rows * l.cols := by
  simp [cells, List.map_const']

/-- The corner on which a node place stands, as column and row of the cell to its lower right; it
may lie off the grid. -/
def corner (l : Layout) (p : Position) : Int × Int :=
  (p.x.toInt + l.halfX, l.nodesY.toNat - (p.y.toInt + l.halfY) - 1)

def cell? (l : Layout) (place : Int × Int) : Option Cell :=
  if 0 ≤ place.1 ∧ 0 ≤ place.2 ∧ l.Contains ⟨place.1.toNat, place.2.toNat⟩ then
    some ⟨place.1.toNat, place.2.toNat⟩
  else none

theorem cell?_eq_some_iff {l : Layout} {place : Int × Int} {c : Cell} :
    l.cell? place = some c ↔ l.Contains c ∧ place = c.upperLeft := by
  obtain ⟨x, y⟩ := place
  obtain ⟨col, row⟩ := c
  unfold cell?
  split
  · next inside =>
    simp only [Option.some.injEq, Cell.mk.injEq, Cell.upperLeft, Prod.mk.injEq]
    constructor
    · rintro ⟨rfl, rfl⟩
      exact ⟨inside.2.2, by omega, by omega⟩
    · rintro ⟨-, rfl, rfl⟩
      exact ⟨rfl, rfl⟩
  · next outside =>
    simp only [reduceCtorEq, Cell.upperLeft, Prod.mk.injEq, false_iff]
    rintro ⟨inside, rfl, rfl⟩
    exact outside ⟨by omega, by omega, inside⟩

theorem cell?_inj {l : Layout} {a b : Int × Int} {c : Cell} (first : l.cell? a = some c)
    (second : l.cell? b = some c) : a = b :=
  (cell?_eq_some_iff.1 first).2.trans (cell?_eq_some_iff.1 second).2.symm

/-- The two cells that share the corner of a place and lie ahead of it, without those off the
grid. -/
def ahead (l : Layout) (p : Position) (facing : Facing) : List Cell :=
  let (c, r) := l.corner p
  let ahead := match facing with
    | .up => [(c, r - 1), (c - 1, r - 1)]
    | .right => [(c, r), (c, r - 1)]
    | .down => [(c, r), (c - 1, r)]
    | .left => [(c - 1, r), (c - 1, r - 1)]
  ahead.filterMap l.cell?

theorem nodup_ahead (l : Layout) (p : Position) (facing : Facing) : (l.ahead p facing).Nodup := by
  have apart : ∀ a b : Int × Int, a ≠ b → ([a, b].filterMap l.cell?).Nodup := by
    intro a b ne
    cases first : l.cell? a with
    | none => cases second : l.cell? b <;> simp [first, second]
    | some c =>
      cases second : l.cell? b with
      | none => simp [first, second]
      | some d =>
        have other : c ≠ d := fun same => ne (cell?_inj first (same ▸ second))
        simp [first, second, other]
  cases facing <;> exact apart _ _ (by simp only [ne_eq, Prod.mk.injEq]; omega)

end Layout

end WildlifeWarning
