import Mathlib.Data.List.Nodup
import Mathlib.Data.List.Perm.Subperm
import WildlifeWarning.Registry

/-! The registered nodes have different numbers, so a number finds the one placement under it. -/

namespace WildlifeWarning

theorem length_lt_of_new {κ : Type} {keys few : List κ} {k : κ} (distinct : keys.Nodup)
    (among : keys ⊆ few) (member : k ∈ few) (new : k ∉ keys) : keys.length < few.length :=
  (List.subperm_of_subset (List.nodup_cons.2 ⟨new, distinct⟩)
    (List.cons_subset.2 ⟨member, among⟩)).length_le

namespace Registry

variable {r : Registry} {p : Placement}

def Distinct (r : Registry) : Prop := (r.nodes.map Placement.node).Nodup

theorem position_of_at? {position : Position} (h : r.at? position = some p) :
    p.position = position := by
  simpa using List.find?_some h

theorem Distinct.eq_of_at? {q : Placement} {here there : Position} (distinct : r.Distinct)
    (first : r.at? here = some p) (second : r.at? there = some q) (same : p.node = q.node) :
    p = q :=
  List.inj_on_of_nodup_map distinct (List.mem_of_find?_eq_some first)
    (List.mem_of_find?_eq_some second) same

theorem find?_isNone_iff (n : NodeId) :
    (r.find? n).isNone ↔ n ∉ r.nodes.map Placement.node := by
  simp [find?]

theorem accept_cases (r : Registry) (p : Placement) :
    (p.node = 0 ∧ r.accept p = .error (.unknownNode 0)) ∨
    (p.node ≠ 0 ∧ p.node ∉ r.nodes.map Placement.node ∧ r.capacity ≤ r.nodes.length ∧
      r.accept p = .error (.capacityExhausted "topology registry" r.capacity)) ∨
    (p.node ≠ 0 ∧ (p.node ∈ r.nodes.map Placement.node ∨ r.nodes.length < r.capacity) ∧
      r.accept p =
        .ok { r with nodes := Keyed.store Placement.node r.nodes p, changed := true }) := by
  by_cases zero : p.node = 0
  · exact .inl ⟨zero, accept_zero r zero⟩
  · by_cases full : (r.find? p.node).isNone ∧ r.capacity ≤ r.nodes.length
    · refine .inr (.inl ⟨zero, (find?_isNone_iff _).1 full.1, full.2, ?_⟩)
      rw [accept, if_neg zero, if_pos full]
    · refine .inr (.inr ⟨zero, ?_, ?_⟩)
      · rw [find?_isNone_iff] at full
        by_cases known : p.node ∈ r.nodes.map Placement.node
        · exact .inl known
        · exact .inr (Nat.lt_of_not_le fun le => full ⟨known, le⟩)
      · rw [accept, if_neg zero, if_neg full]

theorem accept_ok {next : Registry} (h : r.accept p = .ok next) :
    p.node ≠ 0 ∧ (p.node ∈ r.nodes.map Placement.node ∨ r.nodes.length < r.capacity) ∧
      next = { r with nodes := Keyed.store Placement.node r.nodes p, changed := true } := by
  rcases r.accept_cases p with ⟨-, refused⟩ | ⟨-, -, -, refused⟩ | ⟨nonzero, room, stored⟩
  · rw [h] at refused
    contradiction
  · rw [h] at refused
    contradiction
  · exact ⟨nonzero, room, Except.ok.inj (h.symm.trans stored)⟩

theorem accept_eq_ok {next : Registry} (h : r.accept p = .ok next) :
    next = { r with nodes := Keyed.store Placement.node r.nodes p, changed := true } :=
  (accept_ok h).2.2

theorem find?_accept {next : Registry} (h : r.accept p = .ok next) (n : NodeId) :
    next.find? n = if n = p.node then some p else r.find? n := by
  rw [accept_eq_ok h]
  split
  · next own =>
    subst own
    exact Keyed.find?_store_self Placement.node r.nodes p
  · next other => exact Keyed.find?_store_of_ne Placement.node r.nodes (Ne.symm other)

theorem fault_of_accept {fault : Fault} (refused : r.accept p = .error fault)
    (fatal : fault.isFatal) : fault = .capacityExhausted "topology registry" r.capacity := by
  rcases r.accept_cases p with ⟨-, unknown⟩ | ⟨-, -, -, full⟩ | ⟨-, -, stored⟩
  · obtain rfl := Except.error.inj (refused.symm.trans unknown)
    contradiction
  · exact Except.error.inj (refused.symm.trans full)
  · rw [stored] at refused
    contradiction

theorem distinct_accept {next : Registry} (distinct : r.Distinct) (h : r.accept p = .ok next) :
    next.Distinct := by
  rw [accept_eq_ok h]
  exact Keyed.nodup_store Placement.node p distinct

theorem length_accept {next : Registry} (fits : r.nodes.length ≤ r.capacity)
    (h : r.accept p = .ok next) :
    next.capacity = r.capacity ∧ next.nodes.length ≤ r.capacity := by
  obtain ⟨-, room, rfl⟩ := accept_ok h
  have ids := congrArg List.length (Keyed.map_key_store Placement.node r.nodes p)
  rw [List.length_map] at ids
  refine ⟨rfl, ?_⟩
  rw [ids]
  split
  · rwa [List.length_map]
  · next new =>
    rw [List.length_append, List.length_map, List.length_singleton]
    exact room.resolve_left new

theorem length_sensors_le (r : Registry) : r.sensors.length ≤ 2 * r.nodes.length := by
  unfold sensors
  induction r.nodes with
  | nil => simp
  | cons p rest ih =>
    have two := p.type.length_sensors_le
    simp only [List.flatMap_cons, List.length_append, Placement.sensors, List.length_map,
      List.length_cons] at ih ⊢
    omega

theorem mem_sensors_of_find? {k : SensorKey} {n : NodeId} (found : r.find? n = some p)
    (carried : k ∈ p.sensors) : k ∈ r.sensors :=
  List.mem_flatMap.2 ⟨p, List.mem_of_find?_eq_some found, carried⟩

theorem find?_of_mem (distinct : r.Distinct) (member : p ∈ r.nodes) : r.find? p.node = some p :=
  Keyed.find?_of_mem Placement.node distinct member

theorem carrier?_eq_some {k : SensorKey} :
    r.carrier? k = some p ↔ r.find? k.node = some p ∧ k ∈ p.sensors := by
  simp [carrier?, Option.filter_eq_some_iff]

theorem isSome_carrier?_iff (distinct : r.Distinct) {k : SensorKey} :
    (r.carrier? k).isSome ↔ k ∈ r.sensors := by
  rw [Option.isSome_iff_exists, sensors, List.mem_flatMap]
  constructor
  · rintro ⟨p, carried⟩
    obtain ⟨found, member⟩ := carrier?_eq_some.1 carried
    exact ⟨p, List.mem_of_find?_eq_some found, member⟩
  · rintro ⟨p, member, carried⟩
    refine ⟨p, carrier?_eq_some.2 ⟨?_, carried⟩⟩
    rw [Placement.node_of_mem_sensors carried]
    exact find?_of_mem distinct member

end Registry

end WildlifeWarning
