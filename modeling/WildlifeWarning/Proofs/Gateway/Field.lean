import WildlifeWarning.Proofs.ActivityGrid
import WildlifeWarning.Proofs.Gateway.Effects

/-! The activity field of a gateway.
Whatever a gateway went through, its field is the floor after some growth and some decay, so its
cells stay within the bounds of the field. -/

namespace WildlifeWarning

namespace ActivityGrid

def Leads (p : Parameters) (g t : ActivityGrid) : Prop := ∃ changes, t = g.changed p changes

variable {p : Parameters} {g t u : ActivityGrid}

theorem Leads.refl (p : Parameters) (g : ActivityGrid) : Leads p g g := ⟨[], rfl⟩

theorem Leads.trans (first : Leads p g t) (rest : Leads p t u) : Leads p g u := by
  obtain ⟨changes, rfl⟩ := first
  obtain ⟨further, rfl⟩ := rest
  exact ⟨changes ++ further, (inTurn_append ..).symm⟩

theorem leads_growAll (p : Parameters) (factor : Nat → Single) (g : ActivityGrid)
    (cells : List Cell) : Leads p g (Detector.growAll p factor g cells) := by
  induction cells generalizing g with
  | nil => exact .refl p g
  | cons c rest ih =>
    have grown : Leads p g (g.grow p c (factor c.row)) := ⟨[.growth c (factor c.row)], rfl⟩
    exact grown.trans (ih _)

theorem leads_trickle (p : Parameters) (r : Registry) (suppressed : SensorKey → Bool)
    (d : Detector) (g : ActivityGrid) : Leads p g (d.trickle p r suppressed g) := by
  unfold Detector.trickle
  induction d.records generalizing g with
  | nil => exact .refl p g
  | cons record rest ih => exact (leads_growAll p _ g _).trans (ih _)

theorem leads_sense (p : Parameters) (r : Registry) (suppressed : Bool) (d : Detector)
    (g : ActivityGrid) (event : SensorEvent) :
    Leads p g (Detector.sense p r suppressed d g event).2.2 := by
  cases found : r.find? event.node with
  | none =>
    simp only [Detector.sense, found]
    exact .refl p g
  | some node =>
    cases looking : (event.rotation + node.rotation).facing? with
    | none =>
      simp only [Detector.sense, found, looking]
      exact .refl p g
    | some facing =>
      simp only [Detector.sense, found, looking]
      split
      · exact .refl p g
      · cases tracked : d.track r event.key node with
        | mk result base =>
          cases result with
          | error fault => exact .refl p g
          | ok record =>
            simp only
            split
            · exact .refl p g
            · exact leads_growAll p _ g _

end ActivityGrid

namespace Gateway

open ActivityGrid Step

variable {p : Parameters} {g t : Gateway}

theorem grid_synced (g : Gateway) :
    g.synced.parameters = g.parameters ∧ g.synced.grid = g.grid := by
  unfold synced
  split
  · exact ⟨rfl, rfl⟩
  · exact ⟨rfl, rfl⟩

theorem leads_of_effect {through : Bool} {s : Stimulus} (effect : Effect g through s t) :
    t.parameters = g.parameters ∧ Leads g.parameters g.grid t.grid := by
  obtain ⟨parameters, grid⟩ := grid_synced g
  cases effect with
  | quiet => exact ⟨rfl, .refl _ _⟩
  | placed => exact ⟨rfl, .refl _ _⟩
  | stopped =>
    refine ⟨parameters, ?_⟩
    change Leads _ _ g.synced.grid
    rw [grid]
    exact .refl _ _
  | sensed event =>
    obtain ⟨health, -, taken⟩ := taken_eq g.synced event
    rw [taken]
    refine ⟨parameters, ?_⟩
    have sensed := leads_sense g.synced.parameters g.synced.registry
      (g.synced.health.isHyperactive event.key) g.synced.detector g.synced.grid event
    rw [parameters, grid] at sensed
    change Leads _ _ (g.synced.sensed event).2.2
    rw [Gateway.sensed, parameters, grid]
    exact sensed
  | second =>
    refine ⟨parameters, ?_⟩
    change Leads _ _ g.synced.aged
    rw [aged, parameters, grid]
    have decayed : Leads g.parameters g.grid
        (g.grid.decay g.parameters g.parameters.decayFactor) := ⟨[.decay], rfl⟩
    exact decayed.trans (leads_trickle _ _ _ _ _)

theorem leads_served (g : Gateway) (calls : List Call) :
    (g.served calls).parameters = g.parameters ∧
      Leads g.parameters g.grid (g.served calls).grid := by
  induction calls using List.reverseRecOn with
  | nil => exact ⟨rfl, .refl _ _⟩
  | append_singleton earlier c ih =>
    obtain ⟨parameters, leads⟩ := ih
    rw [served_concat]
    cases c with
    | stimulus s =>
      obtain ⟨_, -, effect⟩ := effect_after (g.served earlier) s
      obtain ⟨same, step⟩ := leads_of_effect effect
      rw [parameters] at same step
      exact ⟨same, leads.trans step⟩
    | drain => exact ⟨parameters, leads⟩

/-- Every cell of the field is at all times a number within its bounds: of a field that is grown by
any factors and decays, and of a gateway whatever it is given and whatever its calls return. -/
theorem field_within_bounds (valid : p.validate = .ok ()) :
    (∀ (changes : List Change) (c : Cell), p.grid.Contains c →
      ∃ value, ((atFloor p).changed p changes).value? p c = some value ∧ Within p value) ∧
    ∀ (d : Deployment) (g : Gateway), build p d = .ok g → ∀ (calls : List Call) (c : Cell),
      p.grid.Contains c → ∃ value, (g.served calls).grid.value? p c = some value ∧
        Within p value := by
  have bounding := Parameters.bounding_of_valid (Parameters.validate_eq_ok_iff.1 valid)
  have built : ∀ changes, Bounded p ((atFloor p).changed p changes) :=
    bounded_changed bounding (bounded_atFloor bounding)
  constructor
  · intro changes c inside
    exact (built changes).cell inside
  · intro d g fresh calls c inside
    obtain ⟨-, -, -, rfl⟩ := build_eq_ok fresh
    obtain ⟨-, changes, grid⟩ := leads_served (Gateway.fresh p d {}) calls
    rw [grid]
    exact (built changes).cell inside

/-- From the smallest positive number up, without end. -/
def boundless : Parameters := { activityMin := 1e-45, activityMax := .infinity false }

theorem field_within_bounds_boundless :
    let multiplied : List Change := [.growth ⟨0, 0⟩ (.infinity false), .decay, .growth ⟨0, 0⟩ .nan,
      .growth ⟨0, 0⟩ (.negate 2), .growth ⟨0, 0⟩ 0.5, .decay]
    boundless.validate = .ok () ∧ build boundless {} = .ok (fresh boundless {} {}) ∧
      (∃ value, ((atFloor boundless).changed boundless multiplied).value? boundless ⟨0, 0⟩ =
        some value ∧ Within boundless value) ∧
      ∃ value, ((fresh boundless {} {}).served (sighting.map .stimulus)).grid.value? boundless
        ⟨0, 0⟩ = some value ∧ Within boundless value := by
  intro multiplied
  have valid : boundless.validate = .ok () :=
    Parameters.validate_eq_ok_iff.2 (by decide +kernel)
  have built : build boundless {} = .ok (fresh boundless {} {}) := by
    rw [build, valid]
    rfl
  have inside : boundless.grid.Contains ⟨0, 0⟩ := by decide
  obtain ⟨grown, run⟩ := field_within_bounds valid
  exact ⟨valid, built, grown multiplied ⟨0, 0⟩ inside,
    run {} (fresh boundless {} {}) built (sighting.map .stimulus) ⟨0, 0⟩ inside⟩

end Gateway

end WildlifeWarning
