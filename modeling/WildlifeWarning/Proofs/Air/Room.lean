import WildlifeWarning.Proofs.Air.EchoBoard
import WildlifeWarning.Proofs.Air.HealthReports
import WildlifeWarning.Proofs.Registry

/-! When the slots of a sender suffice. A slot is kept for its subject, so as many slots as there
are subjects are enough, whichever of them are acknowledged and whichever are not. -/

namespace WildlifeWarning

namespace EchoBoard

variable {κ : Type}

/-- All subjects are among a few, for each of which there is a slot. -/
structure Among (few : List κ) (b : EchoBoard κ) : Prop where
  distinct : (b.slots.map EchoSlot.key).Nodup
  among : b.slots.map EchoSlot.key ⊆ few
  room : few.length ≤ b.capacity

variable {few : List κ} {b next : EchoBoard κ} {requests : List Request}

theorem among_acknowledge {a : Acknowledgement} (h : b.Among few)
    (acknowledged : b.acknowledge a = some (next, requests)) : next.Among few := by
  obtain ⟨-, -, rfl, -⟩ := acknowledge_eq_some acknowledged
  exact ⟨by rw [map_key_retire]; exact h.distinct, by rw [map_key_retire]; exact h.among, h.room⟩

variable [DecidableEq κ]

theorem among_publish {key : κ} {build : UInt8 → Payload} (h : b.Among few) (known : key ∈ few)
    (published : b.publish key build = .ok (next, requests)) : next.Among few := by
  obtain ⟨nextId, rfl, -, -⟩ := publish_cases published
  refine ⟨Keyed.nodup_store EchoSlot.key _ h.distinct, ?_, h.room⟩
  rw [Keyed.map_key_store]
  split
  · exact h.among
  · exact List.append_subset.2 ⟨h.among, List.cons_subset.2 ⟨known, List.nil_subset _⟩⟩

theorem publish_of_among {key : κ} (h : b.Among few) (known : key ∈ few)
    (build : UInt8 → Payload) (fault : Fault) : b.publish key build ≠ .error fault := by
  intro refused
  obtain ⟨new, full⟩ := unknown_of_publish refused
  have fewer := length_lt_of_new h.distinct h.among known new
  have := h.room
  rw [List.length_map] at fewer
  omega

end EchoBoard

namespace HealthReports

/-- All pending reports are of a few sensors, no two of one, and each of the few has room. -/
structure Among (few : List SensorKey) (h : HealthReports) : Prop where
  apart : ∀ i j r q, h.slot? i = some r → h.slot? j = some q → r.key = q.key → i = j
  among : ∀ i r, h.slot? i = some r → r.key ∈ few
  room : few.length ≤ h.capacity

variable {few : List SensorKey} {h next : HealthReports} {requests : List Request}

theorem among_acknowledge {a : Acknowledgement} (among : h.Among few)
    (acknowledged : h.acknowledge a = some (next, requests)) : next.Among few := by
  obtain ⟨-, -, sized, -⟩ := slot?_acknowledge acknowledged
  exact ⟨apart_acknowledge among.apart acknowledged, forall_acknowledge acknowledged among.among,
    sized ▸ among.room⟩

theorem among_report {r : HealthReport} (among : h.Among few) (known : r.key ∈ few)
    (reported : h.report r = .ok (next, requests)) : next.Among few := by
  obtain ⟨-, -, sized, -⟩ := slot?_report reported
  exact ⟨apart_report among.apart reported, forall_report reported known among.among,
    sized ▸ among.room⟩

def keys (h : HealthReports) : List SensorKey :=
  (List.range h.capacity).filterMap fun i => (h.slot? i).map HealthReport.key

theorem mem_keys {k : SensorKey} : k ∈ h.keys ↔ ∃ i r, h.slot? i = some r ∧ r.key = k := by
  simp only [keys, List.mem_filterMap, List.mem_range, Option.map_eq_some_iff]
  constructor
  · rintro ⟨i, -, r, pending, same⟩
    exact ⟨i, r, pending, same⟩
  · rintro ⟨i, r, pending, same⟩
    exact ⟨i, lt_capacity_of_slot? pending, r, pending, same⟩

theorem nodup_keys (among : h.Among few) : h.keys.Nodup := by
  refine List.Nodup.filterMap (fun i j k first second => ?_) List.nodup_range
  obtain ⟨r, pending, rfl⟩ := Option.map_eq_some_iff.1 first
  obtain ⟨q, other, same⟩ := Option.map_eq_some_iff.1 second
  exact among.apart i j r q pending other same.symm

theorem report_of_among {r : HealthReport} (among : h.Among few) (known : r.key ∈ few)
    (fault : Fault) : h.report r ≠ .error fault := by
  intro refused
  unfold report at refused
  split at refused
  · next full =>
    obtain ⟨unknown, occupied⟩ := slotFor?_eq_none full
    have new : r.key ∉ h.keys := by
      intro member
      obtain ⟨i, q, pending, same⟩ := mem_keys.1 member
      have other := List.findIdx?_eq_none_iff.1 unknown (some q)
        (List.mem_of_getElem? (Option.join_eq_some_iff.1 pending))
      simp [same] at other
    have all : h.keys.length = h.capacity := by
      rw [← List.length_range (n := h.capacity)]
      refine List.filterMap_length_eq_length.2 fun i member => ?_
      have inside : i < h.slots.length := List.mem_range.1 member
      have := List.findIdx?_eq_none_iff.1 occupied _ (List.getElem_mem inside)
      obtain ⟨q, stored⟩ := Option.isSome_iff_exists.1 (Option.isNone_eq_false_iff.1 this)
      simp [slot?, List.getElem?_eq_getElem inside, stored]
    have among_keys : h.keys ⊆ few := by
      intro k member
      obtain ⟨i, q, pending, rfl⟩ := mem_keys.1 member
      exact among.among i q pending
    have fewer := length_lt_of_new (nodup_keys among) among_keys known new
    have := among.room
    omega
  · contradiction

end HealthReports

end WildlifeWarning
