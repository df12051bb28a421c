import Mathlib.Algebra.Order.BigOperators.Group.List
import Mathlib.Data.Fintype.Basic
import Mathlib.Tactic.FinCases
import WildlifeWarning.AlertPanel
import WildlifeWarning.Proofs.Number.Rounding

/-! The raw level of an indicator as a sum.
Contributions add up and stop at an alarm, so the cells may be visited in any order. Each step, from
the value of a cell to its class, from there to its contribution and on to the sum, keeps order. -/

namespace WildlifeWarning

namespace Level

theorem severity_foldl_plus (start : Level) (levels : List Level) :
    (levels.foldl plus start).severity = min (start.severity + (levels.map severity).sum) 2 := by
  induction levels generalizing start with
  | nil => cases start <;> rfl
  | cons l rest ih =>
    rw [List.foldl_cons, ih, severity_plus, List.map_cons, List.sum_cons]
    omega

theorem eq_of_severity {a b : Level} (h : a.severity = b.severity) : a = b := by
  rw [← ofSeverity_severity a, h, ofSeverity_severity]

theorem severity_sum (levels : List Level) :
    (levels.foldl plus idle).severity = min (levels.map severity).sum 2 := by
  rw [severity_foldl_plus, severity, Nat.zero_add]

theorem foldl_plus_perm {levels order : List Level} (h : order.Perm levels) :
    order.foldl plus idle = levels.foldl plus idle := by
  apply eq_of_severity
  rw [severity_sum, severity_sum, (h.map severity).sum_eq]

end Level

def Cell.contributes (c : Cell) (class_ : Classification) (i : IndicatorIndex) : Level :=
  (c.contribution class_).get i

theorem Cell.contributes_possible_le (c : Cell) (i : IndicatorIndex) :
    c.contributes .possible i ≤ c.contributes .detected i := by
  obtain ⟨col, row⟩ := c
  match col, row with
  | 0, 0 | 1, 0 | _ + 2, 0 | 0, _ + 1 | 1, _ + 1 | _ + 2, _ + 1 =>
    fin_cases i <;> exact Nat.le_of_ble_eq_true rfl

theorem Cell.contributes_mono (c : Cell) (i : IndicatorIndex) {a b : Classification}
    (h : a.code ≤ b.code) : c.contributes a i ≤ c.contributes b i := by
  have idle : c.contributes .idle i = .idle := by fin_cases i <;> rfl
  match a, b with
  | .idle, _ => exact idle ▸ Nat.zero_le _
  | .possible, .possible | .detected, .detected => exact Nat.le_refl _
  | .possible, .detected => exact c.contributes_possible_le i
  | .possible, .idle | .detected, .idle | .detected, .possible => exact absurd h (by decide)

namespace ActivityGrid

variable {p q : Parameters} {g h : ActivityGrid} {i : IndicatorIndex}

/-- What the cells, visited in this order, contribute to an indicator. -/
def contributions (p : Parameters) (g : ActivityGrid) (i : IndicatorIndex) (order : List Cell) :
    List Level :=
  order.map fun c => c.contributes (g.classify p c) i

theorem rawLevel_eq (p : Parameters) (g : ActivityGrid) (i : IndicatorIndex) :
    g.rawLevel p i = (g.contributions p i p.grid.cells).foldl Level.plus .idle := by
  rw [rawLevel, contributions, List.foldl_map]
  rfl

theorem classOf_mono {possible detection v w : Single} (le : v ≤ w) :
    (classOf possible detection v).code ≤ (classOf possible detection w).code := by
  by_cases low : w < possible
  · have lower : v < possible := Binary.lt_of_le_of_lt le low
    rw [classOf, classOf, if_pos lower, if_pos low]
    exact Std.le_refl _
  · by_cases high : v > detection
    · have higher : w > detection := Binary.lt_of_lt_of_le high le
      simp only [classOf, low, high, higher, if_true, if_false]
      split <;> decide
    · simp only [classOf, low, high, if_false]
      split <;> split <;> decide

structure ClassifyAlike (p q : Parameters) : Prop where
  grid : p.grid = q.grid
  possibleRoadside : p.possibleRoadside = q.possibleRoadside
  possibleInland : p.possibleInland = q.possibleInland
  detectionRoadside : p.detectionRoadside = q.detectionRoadside
  detectionInland : p.detectionInland = q.detectionInland

def Below (p q : Parameters) (g h : ActivityGrid) : Prop :=
  ∀ c ∈ p.grid.cells, ∃ v w, g.value? p c = some v ∧ h.value? q c = some w ∧ v ≤ w

theorem classify_mono (alike : ClassifyAlike p q) {c : Cell} {v w : Single}
    (first : g.value? p c = some v) (second : h.value? q c = some w) (le : v ≤ w) :
    (g.classify p c).code ≤ (h.classify q c).code := by
  simp only [classify, first, second, alike.possibleRoadside, alike.possibleInland,
    alike.detectionRoadside, alike.detectionInland]
  split <;> exact classOf_mono le

theorem rawLevel_mono (alike : ClassifyAlike p q) (below : Below p q g h) :
    g.rawLevel p i ≤ h.rawLevel q i := by
  have sums : ((g.contributions p i p.grid.cells).map Level.severity).sum ≤
      ((h.contributions q i p.grid.cells).map Level.severity).sum := by
    rw [contributions, contributions, List.map_map, List.map_map]
    refine List.sum_le_sum fun c member => ?_
    obtain ⟨v, w, first, second, le⟩ := below c member
    exact c.contributes_mono i (classify_mono alike first second le)
  rw [rawLevel_eq, rawLevel_eq, ← alike.grid, Level.le_def, Level.severity_sum,
    Level.severity_sum]
  exact min_le_min_right 2 sums

theorem severity_rawLevel (p : Parameters) (g : ActivityGrid) (i : IndicatorIndex) :
    (g.rawLevel p i).severity =
      min ((g.contributions p i p.grid.cells).map Level.severity).sum 2 := by
  rw [rawLevel_eq, Level.severity_sum]

end ActivityGrid

theorem AlertPanel.cells_of_ofParameters {p : Parameters} {a : AlertPanel}
    (usable : AlertPanel.ofParameters p = .ok a) :
    p.grid.cells = [⟨0, 0⟩, ⟨1, 0⟩, ⟨0, 1⟩, ⟨1, 1⟩] := by
  unfold ofParameters at usable
  split at usable
  · contradiction
  · next square =>
    obtain ⟨cols, rows⟩ : p.grid.cols = 2 ∧ p.grid.rows = 2 := by omega
    rw [Layout.cells, cols, rows]
    rfl

namespace ActivityGrid

/-- Added up one after the other, levels come to their sum, an alarm at most. So the raw level that
a panel takes from a field is the sum of what the four cells contribute, whichever order they are
visited in; and where no cell lies lower, no raw level is lower. -/
theorem raw_level_adds_up :
    (∀ levels : List Level,
      (levels.foldl Level.plus .idle).severity = min (levels.map Level.severity).sum 2) ∧
    (∀ (p : Parameters) (g : ActivityGrid) (a : AlertPanel) (i : IndicatorIndex),
      (∀ order : List Cell, order.Perm p.grid.cells →
        ((a.observe p g).indicator i).raw =
          (g.contributions p i order).foldl Level.plus .idle) ∧
      ∀ fresh, AlertPanel.ofParameters p = .ok fresh →
        let severity := fun c : Cell => (c.contributes (g.classify p c) i).severity
        ((a.observe p g).indicator i).raw.severity =
          min (severity ⟨0, 0⟩ + severity ⟨1, 0⟩ + severity ⟨0, 1⟩ + severity ⟨1, 1⟩) 2) ∧
    ∀ (p q : Parameters) (g h : ActivityGrid) (a b : AlertPanel) (i : IndicatorIndex),
      ClassifyAlike p q → Below p q g h →
        ((a.observe p g).indicator i).raw ≤ ((b.observe q h).indicator i).raw := by
  refine ⟨Level.severity_sum, fun p g a i => ⟨fun order same => ?_, fun fresh usable => ?_⟩, ?_⟩
  · rw [AlertPanel.indicator_observe, rawLevel_eq]
    exact Level.foldl_plus_perm (same.symm.map _)
  · rw [AlertPanel.indicator_observe, severity_rawLevel, AlertPanel.cells_of_ofParameters usable]
    simp [contributions, Nat.add_assoc]
  · intro p q g h a b i alike below
    rw [AlertPanel.indicator_observe, AlertPanel.indicator_observe]
    exact rawLevel_mono alike below

/-- Inland the thresholds are the wrong way round, at the road one is not a number. -/
def inverted : Parameters :=
  { possibleRoadside := .nan, possibleInland := 7, detectionInland := 4 }

theorem raw_level_adds_up_inverted :
    let q : Parameters := { inverted with activityMax := 20 }
    let g : ActivityGrid := ⟨#[2, 3, 5, 6]⟩
    let h : ActivityGrid := ⟨#[2, 8, 7, 9]⟩
    let order : List Cell := [⟨1, 1⟩, ⟨0, 0⟩, ⟨0, 1⟩, ⟨1, 0⟩]
    let raw := ((({} : AlertPanel).observe inverted g).indicator 2).raw
    AlertPanel.ofParameters inverted = .ok {} ∧ ClassifyAlike inverted q ∧
      Below inverted q g h ∧ order.Perm inverted.grid.cells ∧
      raw = (g.contributions inverted 2 order).foldl Level.plus .idle ∧ raw.severity = 1 ∧
      raw ≤ ((({} : AlertPanel).observe q h).indicator 2).raw := by
  intro q g h order raw
  have usable : AlertPanel.ofParameters inverted = .ok {} := rfl
  have alike : ClassifyAlike inverted q := ⟨rfl, rfl, rfl, rfl, rfl⟩
  have below : Below inverted q g h := by
    intro c member
    rw [AlertPanel.cells_of_ofParameters usable] at member
    fin_cases member <;> exact ⟨_, _, rfl, rfl, by decide⟩
  have same : order.Perm inverted.grid.cells := by decide
  obtain ⟨-, sum, mono⟩ := raw_level_adds_up
  obtain ⟨anyOrder, four⟩ := sum inverted g {} 2
  refine ⟨usable, alike, below, same, anyOrder order same, ?_,
    mono inverted q g h {} {} 2 alike below⟩
  rw [four {} usable]
  decide

end ActivityGrid

end WildlifeWarning
