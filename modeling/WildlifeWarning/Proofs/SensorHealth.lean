import Mathlib.Data.List.Nodup
import WildlifeWarning.SensorHealth

/-! What an event does to the health records, when there is no room for one more, and which sensors
the evaluations speak of. -/

namespace WildlifeWarning.SensorHealth

variable {p : Parameters} {h : SensorHealth} {key : SensorKey} {minute : UInt32}

def keys (h : SensorHealth) : List SensorKey := h.records.map EventRecord.key

/-- An evaluation may change flags, not which sensors are on record. -/
structure SameSensors (h next : SensorHealth) : Prop where
  capacity : next.capacity = h.capacity
  keys : next.keys = h.keys

theorem SameSensors.refl (h : SensorHealth) : h.SameSensors h := ⟨rfl, rfl⟩

theorem sameSensors_evaluateHyperactivity (p : Parameters) (h : SensorHealth) :
    h.SameSensors (h.evaluateHyperactivity p).2 :=
  ⟨rfl, by simp [keys, evaluateHyperactivity]⟩

theorem sameSensors_evaluateInactivity (r : Registry) (h : SensorHealth) :
    h.SameSensors (h.evaluateInactivity r).2 := ⟨rfl, rfl⟩

theorem fault_of_record {fault : Fault} (refused : h.record p key minute = .error fault) :
    fault = .capacityExhausted "sensor activity records" h.capacity := by
  unfold record at refused
  simp only at refused
  split at refused
  · exact (Except.error.inj refused).symm
  · contradiction

theorem find?_eq_none_iff : h.find? key = none ↔ key ∉ h.keys := by
  rw [find?, List.find?_eq_none, keys, List.mem_map]
  simp

theorem key_renewed (p : Parameters) (h : SensorHealth) (key : SensorKey) (minute : UInt32) :
    ((h.recordOf p key).push minute).key = key := by
  unfold recordOf
  cases found : h.find? key with
  | none => rfl
  | some record => simpa [EventRecord.push] using List.find?_some found

theorem record_eq_ok {cleared : Option HealthChange} {next : SensorHealth}
    (recorded : h.record p key minute = .ok (cleared, next)) :
    next.capacity = h.capacity ∧
      next.keys = (if key ∈ h.keys then h.keys else h.keys ++ [key]) ∧
      (key ∉ h.keys → h.records.length < h.capacity) := by
  unfold record at recorded
  simp only at recorded
  split at recorded
  · contradiction
  · next room =>
    obtain ⟨-, rfl⟩ := Prod.mk.inj (Except.ok.inj recorded)
    refine ⟨rfl, ?_, fun new => ?_⟩
    · have stored := Keyed.map_key_store EventRecord.key h.records
        ((h.recordOf p key).push minute)
      rwa [key_renewed] at stored
    · rw [find?_eq_none_iff.2 new] at room
      simpa using room

theorem mem_keys_record {cleared : Option HealthChange} {next : SensorHealth} {k : SensorKey}
    (recorded : h.record p key minute = .ok (cleared, next)) (member : k ∈ next.keys) :
    k ∈ h.keys ∨ k = key := by
  rw [(record_eq_ok recorded).2.1] at member
  split at member
  · exact .inl member
  · simpa using member

theorem nodup_keys_record {cleared : Option HealthChange} {next : SensorHealth}
    (distinct : h.keys.Nodup) (recorded : h.record p key minute = .ok (cleared, next)) :
    next.keys.Nodup := by
  rw [(record_eq_ok recorded).2.1]
  split
  · exact distinct
  · next new =>
    rw [← List.concat_eq_append]
    exact distinct.concat new

theorem record_of_room (room : key ∉ h.keys → h.keys.length < h.capacity) :
    ∃ result, h.record p key minute = .ok result := by
  unfold record
  simp only
  split
  · next full =>
    have new : key ∉ h.keys := find?_eq_none_iff.1 (Option.isNone_iff_eq_none.1 full.1)
    have fewer := room new
    rw [keys, List.length_map] at fewer
    omega
  · exact ⟨_, rfl⟩

theorem keys_sync (r : Registry) (h : SensorHealth) :
    (h.sync r).2.keys = h.keys.filter fun k => k ∈ r.sensors := by
  simp only [keys, sync, List.filter_map]
  rfl

theorem mem_keys_of_isHyperactive (flagged : h.isHyperactive key) : key ∈ h.keys := by
  obtain ⟨record, member, flag⟩ := List.any_eq_true.1 flagged
  have same : record.key = key := by simpa using (Bool.and_eq_true_iff.1 flag).1
  exact same ▸ List.mem_map_of_mem member

variable {r : Registry} {c : HealthChange} {k : SensorKey}

theorem silent_record {cleared : Option HealthChange} {next : SensorHealth}
    (recorded : h.record p key minute = .ok (cleared, next)) :
    (∀ k ∈ next.silent, k ∈ h.silent) ∧ ∀ c ∈ cleared, c.key ∈ h.silent := by
  unfold record at recorded
  simp only at recorded
  split at recorded
  · contradiction
  · obtain ⟨rfl, rfl⟩ := Prod.mk.inj (Except.ok.inj recorded)
    refine ⟨fun k member => (List.mem_filter.1 member).1, fun c member => ?_⟩
    obtain ⟨k, found, rfl⟩ := Option.map_eq_some_iff.1 member
    exact List.mem_of_find?_eq_some found

theorem mem_of_sync (member : c ∈ (h.sync r).1) : c.key ∈ h.keys ∨ c.key ∈ h.silent := by
  rcases List.mem_append.1 member with calmed | heard
  · obtain ⟨e, among, rfl⟩ := List.mem_map.1 calmed
    exact .inl (List.mem_map_of_mem (List.mem_filter.1 among).1)
  · obtain ⟨k, among, rfl⟩ := List.mem_map.1 heard
    exact .inr (List.mem_filter.1 among).1

theorem mem_of_flagged (member : c ∈ h.flagged) : c.key ∈ h.keys ∨ c.key ∈ h.silent := by
  rcases List.mem_append.1 member with crowded | silent
  · obtain ⟨e, among, rfl⟩ := List.mem_map.1 crowded
    exact .inl (List.mem_map_of_mem (List.mem_filter.1 among).1)
  · obtain ⟨k, among, rfl⟩ := List.mem_map.1 silent
    exact .inr among

theorem mem_of_evaluateHyperactivity (member : c ∈ (h.evaluateHyperactivity p).1) :
    c.key ∈ h.keys := by
  obtain ⟨e, among, change⟩ := List.mem_filterMap.1 member
  simp only at change
  split at change
  · contradiction
  · exact Option.some.inj change ▸ List.mem_map_of_mem among

theorem newlySilent_subset (seen : List Mount) (silent sensors : List SensorKey) :
    newlySilent seen silent sensors ⊆ sensors := by
  fun_induction newlySilent seen silent sensors with
  | case1 => exact List.Subset.refl _
  | case2 silent key rest _ ih => exact List.subset_cons_of_subset key ih
  | case3 silent key rest _ ih => exact List.cons_subset_cons key ih

theorem mem_of_mem_insertSilent {silent : List SensorKey}
    (member : k ∈ insertSilent key silent) : k = key ∨ k ∈ silent := by
  induction silent with
  | nil => exact .inl (List.mem_singleton.1 member)
  | cons first rest ih =>
    rw [insertSilent] at member
    split at member
    · exact List.mem_cons.1 member
    · rcases List.mem_cons.1 member with rfl | later
      · exact .inr List.mem_cons_self
      · exact (ih later).imp_right (List.mem_cons_of_mem _)

theorem mem_of_evaluateInactivity (member : c ∈ (h.evaluateInactivity r).1) :
    c.key ∈ r.sensors := by
  obtain ⟨k, among, rfl⟩ := List.mem_map.1 member
  exact newlySilent_subset _ _ _ among

theorem mem_silent_evaluateInactivity (member : k ∈ (h.evaluateInactivity r).2.silent) :
    k ∈ h.silent ∨ k ∈ r.sensors := by
  have flagged : ∀ (new silent : List SensorKey),
      k ∈ new.foldl (fun silent key => insertSilent key silent) silent → k ∈ silent ∨ k ∈ new := by
    intro new
    induction new with
    | nil => exact fun _ => .inl
    | cons key rest ih =>
      intro silent member
      rcases ih _ member with old | later
      · rcases mem_of_mem_insertSilent old with rfl | old
        · exact .inr List.mem_cons_self
        · exact .inl old
      · exact .inr (List.mem_cons_of_mem _ later)
  exact (flagged _ _ member).imp_right fun new => newlySilent_subset _ _ _ new

end WildlifeWarning.SensorHealth
