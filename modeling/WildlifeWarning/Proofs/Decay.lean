import WildlifeWarning.Proofs.ActivityGrid
import WildlifeWarning.Proofs.Number.Neighbours

/-! The field when nothing is detected any more.
Every second takes each raised cell at least one place down among the numbers of the format, so
after as many seconds as there are places between the bounds the whole field lies at the floor. -/

namespace WildlifeWarning

open Binary

/-- A field that decays, its floor without lost bits and its ceiling a number. -/
structure Parameters.Decaying (p : Parameters) : Prop extends p.Bounding where
  decay_lt : p.decayFactor < 1
  floor_normal : leastNormal ≤ p.activityMin
  ceiling_finite : p.activityMax < infinity false

namespace ActivityGrid

variable {p : Parameters} {g : ActivityGrid} {value : Single}

theorem decayed_floor (p : Parameters) (factor : Single) :
    decayed p factor p.activityMin = p.activityMin := if_neg (lt_irrefl _)

theorem Within.eq_floor (within : Within p value) (still : ¬p.activityMin < value)
    (bounding : p.Bounding) : value = p.activityMin :=
  eq_of_le_of_not_lt bounding.floor_pos within.floor_le still

theorem decayed_lt (decaying : p.Decaying) (within : Within p value)
    (raised : p.activityMin < value) : decayed p p.decayFactor value < value := by
  have normal : leastNormal < value := lt_of_le_of_lt decaying.floor_normal raised
  have finite : value < infinity false := lt_of_le_of_lt within.le_ceiling decaying.ceiling_finite
  have product : value * p.decayFactor < value :=
    mul_lt_left normal finite decaying.decay_pos decaying.decay_lt
  rw [decayed, if_pos raised]
  exact greatest_lt product raised

def settled (p : Parameters) : Nat → Single → Single
  | 0, value => value
  | n + 1, value => decayed p p.decayFactor (settled p n value)

def decays (p : Parameters) : Nat → ActivityGrid → ActivityGrid
  | 0, g => g
  | n + 1, g => (decays p n g).decay p p.decayFactor

theorem values_decays (p : Parameters) (n : Nat) (g : ActivityGrid) :
    (decays p n g).values = g.values.map (settled p n) := by
  induction n with
  | zero => simp [decays, settled]
  | succ n ih => simp [decays, decay, ih, settled, Function.comp_def]

theorem within_settled (bounding : p.Bounding) (within : Within p value) (n : Nat) :
    Within p (settled p n value) := by
  induction n with
  | zero => exact within
  | succ n ih => exact within_decayed bounding ih

/-- The place among the numbers falls by one each second until the floor is reached. -/
theorem toBits_settled (decaying : p.Decaying) (within : Within p value) (n : Nat) :
    (settled p n value).toBits + n ≤ value.toBits ∨ settled p n value = p.activityMin := by
  induction n with
  | zero => exact .inl (Nat.le_refl _)
  | succ n ih =>
    have now := within_settled decaying.toBounding within n
    rcases ih with above | floor
    · by_cases raised : p.activityMin < settled p n value
      · have positive := lt_of_lt_of_le decaying.floor_pos
          (within_settled decaying.toBounding within (n + 1)).floor_le
        have lower : (settled p (n + 1) value).toBits < (settled p n value).toBits :=
          toBits_lt positive (decayed_lt decaying now raised)
        exact .inl (by omega)
      · right
        rw [settled, now.eq_floor raised decaying.toBounding, decayed_floor]
    · right
      rw [settled, floor, decayed_floor]

theorem settled_eq_floor (decaying : p.Decaying) (within : Within p value) {n : Nat}
    (long : p.activityMax.toBits - p.activityMin.toBits ≤ n) :
    settled p n value = p.activityMin := by
  rcases toBits_settled decaying within n with above | floor
  · have bounding := decaying.toBounding
    have positive : 0 < value := lt_of_lt_of_le bounding.floor_pos within.floor_le
    have ceiling : value.toBits ≤ p.activityMax.toBits := toBits_le positive within.le_ceiling
    refine (within_settled bounding within n).eq_floor (fun raised => ?_) bounding
    have := toBits_lt bounding.floor_pos raised
    omega
  · exact floor

/-- Under usable parameters with a factor below one, a finite ceiling and a normal floor, each
second of decay lowers every cell above the floor and leaves those at the floor, and from some
second on, no later than there are numbers between the bounds, all cells are the floor. -/
theorem decay_reaches_floor (valid : p.validate = .ok ()) (decay_lt : p.decayFactor < 1)
    (finite : p.activityMax < infinity false) (normal : leastNormal ≤ p.activityMin)
    (bounds : ∀ value ∈ g.values, p.activityMin ≤ value ∧ value ≤ p.activityMax) :
    (∀ (n i : Nat) (before : Single), (decays p n g).values[i]? = some before →
      ∃ after, (decays p (n + 1) g).values[i]? = some after ∧ p.activityMin ≤ after ∧
        (p.activityMin < before → after < before) ∧
        (before = p.activityMin → after = p.activityMin)) ∧
    ∃ n ≤ p.activityMax.toBits - p.activityMin.toBits, ∀ m ≥ n,
      (decays p m g).values = Array.replicate g.values.size p.activityMin := by
  have bounding := Parameters.bounding_of_valid (Parameters.validate_eq_ok_iff.1 valid)
  have decaying : p.Decaying := ⟨bounding, decay_lt, normal, finite⟩
  have within : ∀ value ∈ g.values, Within p value := fun value member =>
    within_of_le (bounds value member).1 (bounds value member).2
  constructor
  · intro n i before found
    rw [values_decays, Array.getElem?_map] at found
    obtain ⟨value, start, rfl⟩ := Option.map_eq_some_iff.1 found
    have here : Within p value := within value (Array.mem_of_getElem? start)
    refine ⟨settled p (n + 1) value, ?_, (within_settled bounding here (n + 1)).floor_le, ?_, ?_⟩
    · rw [values_decays, Array.getElem?_map, start]
      rfl
    · exact decayed_lt decaying (within_settled bounding here n)
    · intro floor
      rw [settled, floor, decayed_floor]
  · refine ⟨_, Nat.le_refl _, fun m long => ?_⟩
    rw [values_decays]
    refine Array.ext_getElem? fun i => ?_
    rw [Array.getElem?_map, Array.getElem?_replicate]
    cases start : g.values[i]? with
    | none => rw [if_neg (Nat.not_lt.2 (Array.getElem?_eq_none_iff.1 start))]; rfl
    | some value =>
      obtain ⟨lt, -⟩ := Array.getElem?_eq_some_iff.1 start
      rw [if_pos lt]
      exact congrArg some
        (settled_eq_floor decaying (within value (Array.mem_of_getElem? start)) long)

/-- The least normal number for a floor and the largest factor below one. -/
def sluggish : Parameters := { activityMin := leastNormal, decayFactor := 0.99999994 }

theorem decay_reaches_floor_sluggish :
    let g : ActivityGrid := ⟨#[12, leastNormal, 1.1754945e-38, 1]⟩
    sluggish.validate = .ok () ∧ sluggish.decayFactor < 1 ∧
      sluggish.activityMax < infinity false ∧ leastNormal ≤ sluggish.activityMin ∧
      (∀ value ∈ g.values, sluggish.activityMin ≤ value ∧ value ≤ sluggish.activityMax) ∧
      (∃ after : Single, (decays sluggish 1 g).values[2]? = some after ∧ after < 1.1754945e-38) ∧
      ∃ n ≤ 0x40c00000, ∀ m ≥ n,
        (decays sluggish m g).values = #[leastNormal, leastNormal, leastNormal, leastNormal] := by
  intro g
  have valid : sluggish.validate = .ok () :=
    Parameters.validate_eq_ok_iff.2 (by decide +kernel)
  have decay_lt : sluggish.decayFactor < 1 := by decide +kernel
  have finite : sluggish.activityMax < infinity false := by decide +kernel
  have normal : leastNormal ≤ sluggish.activityMin := by decide +kernel
  have bounds : ∀ value ∈ g.values,
      sluggish.activityMin ≤ value ∧ value ≤ sluggish.activityMax := by decide +kernel
  obtain ⟨falls, n, soon, floor⟩ := decay_reaches_floor valid decay_lt finite normal bounds
  obtain ⟨after, found, -, lower, -⟩ := falls 0 2 1.1754945e-38 rfl
  refine ⟨valid, decay_lt, finite, normal, bounds, ⟨after, found, lower (by decide +kernel)⟩, n, ?_,
    floor⟩
  exact Nat.le_trans soon (by decide +kernel)

/-- Where the floor is not normal, a cell can stall above it. -/
example : decayed { activityMin := 1e-45 } 0.99999994 1e-44 = 1e-44 := by decide +kernel

end ActivityGrid

end WildlifeWarning
