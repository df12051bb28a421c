import WildlifeWarning.Proofs.Detector
import WildlifeWarning.Proofs.Gateway.Effects

/-! What the detector keeps on record, event by event.
As long as no call is refused, the detector and the health records know the same sensors: then an
event that finds the detector full is refused by the health records as well. -/

namespace WildlifeWarning.Gateway

open Step

structure Orderly (p : Parameters) (g : Gateway) : Prop where
  parameters : g.parameters = p
  distinct : g.registry.Distinct
  keys : g.detector.keys.Nodup
  capacity : g.detector.capacity = g.health.capacity

/-- The detector and the health records know the same sensors. -/
def Paired (g : Gateway) : Prop := g.detector.keys = g.health.keys

def Intact (g : Gateway) (stimuli : List Stimulus) : Prop := g.Paired ∧ g.accepts stimuli

variable {p : Parameters} {g t : Gateway} {event : SensorEvent}

theorem orderly_fresh (p : Parameters) (d : Deployment) (alerts : AlertPanel) :
    (fresh p d alerts).Orderly p := ⟨rfl, List.nodup_nil, List.nodup_nil, rfl⟩

theorem orderly_synced (orderly : g.Orderly p) : g.synced.Orderly p := by
  unfold synced
  split
  · exact ⟨orderly.parameters, orderly.distinct, Detector.nodup_keys_sync orderly.keys,
      orderly.capacity⟩
  · exact orderly

theorem changed_synced (g : Gateway) : g.synced.registry.changed = false := by
  unfold synced
  split
  · rfl
  · next settled => simpa using settled

theorem synced_of_settled (settled : g.registry.changed = false) : g.synced = g := by
  simp [synced, settled]

theorem paired_synced (orderly : g.Orderly p) (paired : g.Paired) : g.synced.Paired := by
  unfold synced
  split
  · change (g.detector.sync g.registry).keys = (g.health.sync g.registry).2.keys
    rw [Detector.keys_sync, SensorHealth.keys_sync, ← paired]
    refine List.filter_congr fun k _ => ?_
    rw [Bool.eq_iff_iff, Registry.isSome_carrier?_iff orderly.distinct, decide_eq_true_iff]
  · exact paired

/-- The sensors that report are on record on both sides, so there is no room to be made where an
event is admitted. -/
theorem makeRoom_eq_self (orderly : g.Orderly p) (paired : g.Paired) (admitted : g.Admits event)
    {detection : Detection} (ok : (g.sensed event).1 = .ok detection)
    (unknown : g.detector.find? event.key = none) :
    g.detector.makeRoom g.registry = g.detector := by
  obtain ⟨⟨cleared, health⟩, recorded⟩ := admitted.2 detection ok
  have new : event.key ∉ g.health.keys := paired ▸ Detector.find?_eq_none_iff.1 unknown
  have room := (SensorHealth.record_eq_ok recorded).2.2 new
  have lengths : g.detector.records.length = g.health.records.length := by
    simpa [Detector.keys, SensorHealth.keys] using congrArg List.length paired
  rw [← orderly.capacity, ← lengths] at room
  exact if_neg (Nat.not_le.2 room)

inductive Records (g : Gateway) (event : SensorEvent) (base : Detector) : Prop where
  | refused {fault : Fault} (error : (g.sensed event).1 = .error fault)
      (kept : (g.sensed event).2.1 = base)
  | suppressed (flagged : g.health.isHyperactive event.key) (kept : (g.sensed event).2.1 = base)
  | stored {detection : Detection} {node : Placement} {record : SensorRecord}
      (loud : g.health.isHyperactive event.key = false) (ok : (g.sensed event).1 = .ok detection)
      (standing : g.registry.find? event.node = some node)
      (put : (g.sensed event).2.1 = base.put record) (key : record.key = event.key)
      (state : record.state = detection.state) (placed : record.placedAs node)

theorem detector_sensed (orderly : g.Orderly p) (event : SensorEvent) :
    ∃ base, (base = g.detector ∨ base = g.detector.makeRoom g.registry) ∧
      (g.Paired → g.Admits event → base = g.detector) ∧ g.Records event base := by
  cases suppressed : g.health.isHyperactive event.key with
  | true =>
    refine ⟨g.detector, .inl rfl, fun _ _ => rfl, .suppressed suppressed ?_⟩
    rw [sensed, suppressed, Detector.sense_suppressed]
  | false =>
    cases result : (g.sensed event).1 with
    | error fault =>
      rcases Detector.sense_error result with ⟨-, same⟩ | ⟨full, -, -, -, dropped⟩
      · exact ⟨g.detector, .inl rfl, fun _ _ => rfl, .refused result same⟩
      · refine ⟨_, .inr rfl, fun _ admitted => ?_, .refused result dropped⟩
        have harmless := admitted.1 fault result
        rw [full] at harmless
        contradiction
    | ok detection =>
      have ok := result
      rw [sensed, suppressed] at ok
      obtain ⟨node, facing, base, record, found, -, starts, -, put⟩ := Detector.sense_ok ok
      have put : (g.sensed event).2.1 = base.put { record with state := detection.state } := by
        rw [sensed, suppressed, put]
      refine ⟨base, ?_, fun paired admitted => ?_,
        .stored suppressed result found put starts.key_eq rfl starts.placedAs⟩
      · cases starts with
        | known => exact .inl rfl
        | new => exact .inr rfl
      · cases starts with
        | known => rfl
        | new unknown room => exact makeRoom_eq_self orderly paired admitted result unknown

theorem orderly_taken (orderly : g.Orderly p) (event : SensorEvent) :
    (g.taken event).Orderly p := by
  obtain ⟨health, capacity, taken⟩ := taken_eq g event
  have kept : (g.sensed event).2.1.capacity = g.detector.capacity :=
    Detector.capacity_sense _ _ _ _ _ _
  rw [taken]
  exact ⟨orderly.parameters, orderly.distinct, Detector.nodup_keys_sense orderly.keys,
    kept.trans (orderly.capacity.trans capacity.symm)⟩

theorem paired_taken (orderly : g.Orderly p) (paired : g.Paired) (admitted : g.Admits event) :
    (g.taken event).Paired := by
  obtain ⟨base, -, same, records⟩ := detector_sensed orderly event
  obtain rfl := same paired admitted
  cases result : (g.sensed event).1 with
  | error fault =>
    have taken : g.taken event = g.detected event := by simp only [taken, result]
    rw [taken]
    cases records with
    | refused error kept => exact (congrArg Detector.keys kept).trans paired
    | suppressed flagged kept => exact (congrArg Detector.keys kept).trans paired
    | stored loud ok => exact absurd (result.symm.trans ok) (by simp)
  | ok detection =>
    obtain ⟨⟨cleared, health⟩, recorded⟩ := admitted.2 detection result
    have taken : g.taken event = { g.detected event with health } := by
      have noted : (g.detected event).health.record (g.detected event).parameters event.key
          (g.detected event).minute = .ok (cleared, health) := recorded
      simp only [taken, result, noted, Gateway.noted]
    rw [taken, Paired, (SensorHealth.record_eq_ok recorded).2.1, ← paired]
    change (g.sensed event).2.1.keys = _
    cases records with
    | refused error => exact absurd (result.symm.trans error) (by simp)
    | suppressed flagged kept =>
      have known : event.key ∈ g.detector.keys :=
        paired ▸ SensorHealth.mem_keys_of_isHyperactive flagged
      rw [kept, if_pos known]
    | stored loud ok standing put key => rw [put, Detector.keys_put, key]

theorem orderly_of_effect {through : Bool} {s : Stimulus} (orderly : g.Orderly p)
    (effect : Effect g through s t) : t.Orderly p := by
  cases effect with
  | quiet health minute air same =>
    exact ⟨orderly.parameters, orderly.distinct, orderly.keys,
      orderly.capacity.trans same.capacity.symm⟩
  | placed placement asked accepted =>
    exact ⟨orderly.parameters, Registry.distinct_accept orderly.distinct accepted, orderly.keys,
      orderly.capacity⟩
  | stopped alerts outbox air =>
    have synced := orderly_synced orderly
    exact ⟨synced.parameters, synced.distinct, synced.keys, synced.capacity⟩
  | sensed event echoed air =>
    have taken := orderly_taken (orderly_synced orderly) event
    exact ⟨taken.parameters, taken.distinct, taken.keys, taken.capacity⟩
  | second clock minute health outbox echoed air same =>
    have synced := orderly_synced orderly
    exact ⟨synced.parameters, synced.distinct, synced.keys,
      synced.capacity.trans same.capacity.symm⟩

theorem paired_of_effect {s : Stimulus} (orderly : g.Orderly p) (paired : g.Paired)
    (effect : Effect g true s t) : t.Paired := by
  cases effect with
  | quiet health minute air same => exact paired.trans same.keys.symm
  | placed => exact paired
  | stopped alerts outbox air refused => contradiction
  | sensed event echoed air synced admitted =>
    exact paired_taken (orderly_synced orderly) (paired_synced orderly paired) (admitted rfl)
  | second clock minute health outbox echoed air same =>
    exact (paired_synced orderly paired).trans same.keys.symm

theorem orderly_on (orderly : g.Orderly p) (s : Stimulus) : ((on s).after g).2.Orderly p := by
  obtain ⟨through, -, effect⟩ := effect_after g s
  exact orderly_of_effect orderly effect

theorem orderly_drain (orderly : g.Orderly p) : g.drain.2.Orderly p :=
  ⟨orderly.parameters, orderly.distinct, orderly.keys, orderly.capacity⟩

theorem orderly_after (orderly : g.Orderly p) (stimuli : List Stimulus) :
    (g.after stimuli).Orderly p :=
  inTurn_induction (motive := fun _ g => Orderly p g) orderly stimuli fun _ s _ _ orderly =>
    orderly_on orderly s

theorem Intact.next {s : Stimulus} {rest : List Stimulus} (orderly : g.Orderly p)
    (intact : g.Intact (s :: rest)) : ((on s).after g).2.Intact rest := by
  obtain ⟨paired, accepted⟩ := intact
  obtain ⟨ok, accepted⟩ := accepts_cons.1 accepted
  exact ⟨paired_of_effect orderly paired ((effect_on g s).of_ok ok), accepted⟩

theorem Intact.after {before rest : List Stimulus} (orderly : g.Orderly p)
    (intact : g.Intact (before ++ rest)) : (g.after before).Intact rest := by
  induction before generalizing g with
  | nil => exact intact
  | cons s before ih =>
    obtain ⟨through, -, effect⟩ := effect_after g s
    exact ih (orderly_of_effect orderly effect) (intact.next orderly)

end WildlifeWarning.Gateway
