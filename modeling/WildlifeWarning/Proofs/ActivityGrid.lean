import WildlifeWarning.ActivityGrid
import WildlifeWarning.Proofs.InTurn
import WildlifeWarning.Proofs.Number.Rounding

/-! The bounds of the activity field.
Growth brings every product back between the floor and the ceiling, whatever was multiplied. Decay
has no ceiling of its own: it stays below the one of before because a product with a positive factor
of at most one is rounded to no more than the value. -/

namespace WildlifeWarning

structure Parameters.Bounding (p : Parameters) : Prop where
  floor_pos : 0 < p.activityMin
  floor_lt : p.activityMin < p.activityMax
  decay_pos : 0 < p.decayFactor
  decay_le : p.decayFactor ≤ 1

theorem Parameters.bounding_of_valid {p : Parameters} (valid : p.misconfiguration? = none) :
    p.Bounding := by
  unfold misconfiguration? at valid
  split at valid
  · contradiction
  · split at valid
    · contradiction
    · next bounds =>
      split at valid
      · contradiction
      · next decay =>
        have bounds := Decidable.not_not.1 bounds
        have decay := Decidable.not_not.1 decay
        exact ⟨bounds.1, bounds.2, decay.1, decay.2⟩

namespace ActivityGrid

structure Within (p : Parameters) (value : Single) : Prop where
  number : value.isNaN = false
  floor_le : p.activityMin ≤ value
  le_ceiling : value ≤ p.activityMax

variable {p : Parameters} {g : ActivityGrid} {value : Single}

theorem within_of_le (floor : p.activityMin ≤ value) (ceiling : value ≤ p.activityMax) :
    Within p value := ⟨Binary.isNaN_right floor, floor, ceiling⟩

theorem within_floor (bounding : p.Bounding) : Within p p.activityMin := by
  have ceiling : p.activityMin ≤ p.activityMax := Binary.le_of_lt bounding.floor_lt
  exact within_of_le (Binary.le_self (Binary.isNaN_left ceiling)) ceiling

theorem within_grown (bounding : p.Bounding) (factor value : Single) :
    Within p (grown p factor value) := by
  have floor := within_floor bounding
  have ceiling : p.activityMax.isNaN = false := Binary.isNaN_right floor.le_ceiling
  exact within_of_le (Binary.le_greatest floor.number)
    (Binary.greatest_le (Binary.least_le ceiling) floor.le_ceiling)

theorem within_decayed (bounding : p.Bounding) (within : Within p value) :
    Within p (decayed p p.decayFactor value) := by
  unfold decayed
  split
  · next raised =>
    have pos : 0 < value := Binary.lt_of_lt_of_le bounding.floor_pos within.floor_le
    have shrunk : value * p.decayFactor ≤ value :=
      Binary.mul_le_left pos bounding.decay_pos bounding.decay_le
    have ceiling : (value * p.decayFactor).greatest p.activityMin ≤ value :=
      Binary.greatest_le shrunk within.floor_le
    exact within_of_le (Binary.le_greatest (within_floor bounding).number)
      (Binary.le_trans ceiling within.le_ceiling)
  · exact within

structure Bounded (p : Parameters) (g : ActivityGrid) : Prop where
  size : g.values.size = p.grid.rows * p.grid.cols
  within : ∀ (i : Nat) (value : Single), g.values[i]? = some value → Within p value

theorem Bounded.cell (bounded : Bounded p g) {c : Cell} (inside : p.grid.Contains c) :
    ∃ value, g.value? p c = some value ∧ Within p value := by
  have lt : p.grid.index c < g.values.size := bounded.size ▸ Layout.index_lt inside
  have found : g.values[p.grid.index c]? = some g.values[p.grid.index c] :=
    Array.getElem?_eq_getElem lt
  refine ⟨_, ?_, bounded.within _ _ found⟩
  rw [value?, if_pos inside, found]

theorem bounded_atFloor (bounding : p.Bounding) : Bounded p (atFloor p) := by
  constructor
  · simp [atFloor]
  · intro i value found
    obtain ⟨-, rfl⟩ : i < p.grid.rows * p.grid.cols ∧ p.activityMin = value := by
      simpa [atFloor, Array.getElem?_replicate] using found
    exact within_floor bounding

theorem bounded_grow (bounding : p.Bounding) (bounded : Bounded p g) (c : Cell)
    (factor : Single) : Bounded p (g.grow p c factor) := by
  constructor
  · rw [size_grow, bounded.size]
  · intro i value found
    unfold grow at found
    split at found
    · rw [Array.getElem?_modify] at found
      split at found
      · obtain ⟨old, -, rfl⟩ := Option.map_eq_some_iff.1 found
        exact within_grown bounding factor old
      · exact bounded.within i value found
    · exact bounded.within i value found

theorem bounded_decay (bounding : p.Bounding) (bounded : Bounded p g) :
    Bounded p (g.decay p p.decayFactor) := by
  constructor
  · rw [size_decay, bounded.size]
  · intro i value found
    rw [decay, Array.getElem?_map] at found
    obtain ⟨old, before, rfl⟩ := Option.map_eq_some_iff.1 found
    exact within_decayed bounding (bounded.within i old before)

inductive Change where
  | growth (c : Cell) (factor : Single)
  | decay
  deriving DecidableEq

def change (p : Parameters) (g : ActivityGrid) : Change → ActivityGrid
  | .growth c factor => g.grow p c factor
  | .decay => g.decay p p.decayFactor

def changed (p : Parameters) (g : ActivityGrid) (changes : List Change) : ActivityGrid :=
  inTurn (change p) g changes

theorem bounded_change (bounding : p.Bounding) (bounded : Bounded p g) (c : Change) :
    Bounded p (g.change p c) := by
  cases c with
  | growth c factor => exact bounded_grow bounding bounded c factor
  | decay => exact bounded_decay bounding bounded

theorem bounded_changed (bounding : p.Bounding) (bounded : Bounded p g) (changes : List Change) :
    Bounded p (g.changed p changes) :=
  inTurn_induction (motive := fun _ g => Bounded p g) bounded changes fun _ c _ _ bounded =>
    bounded_change bounding bounded c

end ActivityGrid

end WildlifeWarning
