import WildlifeWarning.Proofs.Air.Airtime
import WildlifeWarning.Proofs.Gateway.Scope

/-! The carousel of a gateway holds what its senders have on air, whatever comes in. -/

namespace WildlifeWarning.Gateway

open Step

theorem stable_sound : Stable .all Airtime.Sound Airtime.RefusedElsewhere where
  forward _ own := Airtime.keeps_forward own
  echoCommand c _ := Airtime.keeps_echoCommand c
  echo := Airtime.keeps_echo
  reportHealth _ own _ := Airtime.keeps_reportHealth own
  acknowledge := Airtime.keeps_acknowledge
  rotate _ sound := Airtime.sound_rotate sound
  full pool named capacity air sound := ⟨fun other same => by
    obtain rfl := (Fault.capacityExhausted.inj same).1
    revert named
    decide, sound⟩

theorem sound_fresh {p : Parameters} {d : Deployment} (alerts : AlertPanel)
    (cells : p.grid.cols = 2 ∧ p.grid.rows = 2) (room : 14 ≤ d.pagePoolCapacity) :
    (fresh p d alerts).air.Sound := by
  have four : p.grid.rows * p.grid.cols = 4 := by rw [cells.1, cells.2]
  have no_copies : (Carousel.empty d.pagePoolCapacity).copies = [] :=
    List.filterMap_eq_nil_iff.2 fun slot member => List.eq_of_mem_replicate member
  refine ⟨by simpa [fresh, Carousel.empty, Carousel.capacity], ?_, ?_, ⟨rfl, ?_⟩, ⟨?_, ?_⟩, ?_⟩
  · simp only [fresh, no_copies]
    rfl
  · intro s member
    contradiction
  · exact Nat.zero_le _
  · simp only [fresh, four]
    rfl
  · exact Nat.zero_le _
  · have silent := HealthReports.slot?_empty d.sensorErrorCapacity
    refine ⟨fun i r pending => ?_, fun aired on => ?_, fun _ => silent⟩
    · exact absurd (pending.symm.trans (silent i)) (by simp)
    · contradiction

/-- A carousel of fourteen slots never runs out of room and holds exactly what the senders have on
air, whatever comes in and whichever other pool is full. -/
theorem carousel_holds_due {p : Parameters} {d : Deployment} {g : Gateway}
    (built : build p d = .ok g) (room : 14 ≤ d.pagePoolCapacity) (stimuli : List Stimulus) :
    (∀ s capacity, ((on s).after (g.after stimuli)).1 ≠
      .error (.capacityExhausted "page pool" capacity)) ∧
    (g.after stimuli).air.carousel.copies.Perm (g.after stimuli).air.due ∧
    ((g.after stimuli).air.healthReports.aired? = none ↔
      (g.after stimuli).air.healthReports.pending = []) := by
  obtain ⟨-, cols, rows, rfl⟩ := build_eq_ok built
  have sound : ((fresh p d {}).after stimuli).air.Sound :=
    inTurn_induction (motive := fun _ (g : Gateway) => g.air.Sound)
      (sound_fresh {} ⟨cols, rows⟩ room) stimuli fun _ s _ _ kept =>
        (keeps_on stable_sound s).after (fun _ _ refused => refused.2) kept
  refine ⟨fun s capacity refused => ?_, ?_, ?_⟩
  · exact ((keeps_on stable_sound s _ sound).of_error refused).1 capacity rfl
  · rw [Airtime.due_eq sound]
    exact sound.copies
  · exact HealthReports.aired?_eq_none_iff sound.healthReports

/-- After a sighting, the sample is on air twice, the indicator echo once and the echoes of two
cells twice each. -/
theorem carousel_holds_due_sighting :
    14 ≤ ({} : Deployment).pagePoolCapacity ∧
    ((fresh {} {} {}).after sighting).air.due.map (fun copy => copy.tag) =
      [.motionSample, .motionSample, .indicator, .activity, .activity, .activity, .activity] ∧
    ((fresh {} {} {}).after sighting).air.carousel.copies.Perm
      ((fresh {} {} {}).after sighting).air.due :=
  ⟨by decide, by decide +kernel, (carousel_holds_due build_default (by decide) sighting).2.1⟩

end WildlifeWarning.Gateway
