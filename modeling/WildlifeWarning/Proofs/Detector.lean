import WildlifeWarning.Detector
import WildlifeWarning.Proofs.Registry

/-! What an event does to the records of the detector, and when the detector has no room. -/

namespace WildlifeWarning.Detector

variable {p : Parameters} {r : Registry} {d : Detector} {g : ActivityGrid} {event : SensorEvent}

/-- The sensors on record, by their first event. -/
def keys (d : Detector) : List SensorKey := d.records.map SensorRecord.key

theorem key_of_find? {k : SensorKey} {record : SensorRecord} (found : d.find? k = some record) :
    record.key = k := by
  simpa using List.find?_some found

theorem find?_eq_none_iff {k : SensorKey} : d.find? k = none ↔ k ∉ d.keys := by
  rw [find?, List.find?_eq_none, keys, List.mem_map]
  simp

theorem find?_put_self (d : Detector) (record : SensorRecord) :
    (d.put record).find? record.key = some record :=
  Keyed.find?_store_self SensorRecord.key d.records record

theorem find?_put_of_ne (d : Detector) {record : SensorRecord} {k : SensorKey}
    (h : record.key ≠ k) : (d.put record).find? k = d.find? k :=
  Keyed.find?_store_of_ne SensorRecord.key d.records h

theorem keys_put (d : Detector) (record : SensorRecord) :
    (d.put record).keys =
      if record.key ∈ d.keys then d.keys else d.keys ++ [record.key] :=
  Keyed.map_key_store SensorRecord.key d.records record

theorem put_put (d : Detector) {first second : SensorRecord} (h : first.key = second.key) :
    (d.put first).put second = d.put second := by
  rw [put, put, Keyed.store_store SensorRecord.key d.records h]
  rfl

theorem lastingCells_of_inactive {record : SensorRecord} (p : Parameters) (r : Registry)
    (suppressed : SensorKey → Bool) (inactive : record.state.isActive = false) :
    lastingCells p r suppressed record = [] := by
  unfold lastingCells
  split
  · rfl
  · split
    · exact SensorRecord.cells_of_inactive p _ inactive
    · rfl

theorem find?_sync (d : Detector) (r : Registry) (k : SensorKey) :
    (d.sync r).find? k = (d.find? k).bind fun record => (r.carrier? k).map record.settle := by
  simp only [find?, sync]
  induction d.records with
  | nil => rfl
  | cons record rest ih =>
    by_cases same : record.key = k
    · cases carried : r.carrier? k with
      | none =>
        rw [List.filterMap_cons_none (by rw [same, carried]; rfl), ih, carried]
        simp
      | some node =>
        rw [List.filterMap_cons_some (b := record.settle node) (by rw [same, carried]; rfl)]
        simp [same]
    · cases carried : r.carrier? record.key with
      | none =>
        rw [List.filterMap_cons_none (by rw [carried]; rfl), ih]
        simp [same]
      | some node =>
        rw [List.filterMap_cons_some (b := record.settle node) (by rw [carried]; rfl)]
        simp [same, ih]

theorem keys_sync (d : Detector) (r : Registry) :
    (d.sync r).keys = d.keys.filter fun k => (r.carrier? k).isSome := by
  simp only [keys, sync]
  induction d.records with
  | nil => rfl
  | cons record rest ih =>
    cases carried : r.carrier? record.key with
    | none =>
      rw [List.filterMap_cons_none (by rw [carried]; rfl), ih, List.map_cons]
      simp [carried]
    | some node =>
      rw [List.filterMap_cons_some (b := record.settle node) (by rw [carried]; rfl), List.map_cons,
        ih, List.map_cons]
      simp [carried]

theorem capacity_makeRoom : (d.makeRoom r).capacity = d.capacity := by
  unfold makeRoom
  split <;> rfl

theorem keys_makeRoom (d : Detector) (r : Registry) :
    (d.makeRoom r).keys =
      if d.capacity ≤ d.keys.length then d.keys.filter fun k => (r.carrier? k).isSome
      else d.keys := by
  rw [makeRoom, apply_ite keys, keys_sync, keys, List.length_map]

theorem nodup_keys_sync (distinct : d.keys.Nodup) : (d.sync r).keys.Nodup := by
  rw [keys_sync]
  exact distinct.filter _

theorem nodup_keys_makeRoom (distinct : d.keys.Nodup) : (d.makeRoom r).keys.Nodup := by
  unfold makeRoom
  split
  · exact nodup_keys_sync distinct
  · exact distinct

theorem keys_makeRoom_subset : (d.makeRoom r).keys ⊆ d.keys := by
  unfold makeRoom
  split
  · rw [keys_sync]
    exact List.filter_sublist.subset
  · exact List.Subset.refl _

theorem nodup_keys_put (record : SensorRecord) (distinct : d.keys.Nodup) :
    (d.put record).keys.Nodup := Keyed.nodup_store SensorRecord.key record distinct

inductive Starts (r : Registry) (d : Detector) (key : SensorKey) (node : Placement) :
    Detector → SensorRecord → Prop where
  | known {old : SensorRecord} (found : d.find? key = some old) :
      Starts r d key node d (old.settle node)
  | new (unknown : d.find? key = none)
      (room : (d.makeRoom r).records.length < (d.makeRoom r).capacity) :
      Starts r d key node (d.makeRoom r) (.fresh key node)

theorem Starts.key_eq {key : SensorKey} {node : Placement} {base : Detector}
    {record : SensorRecord} (starts : Starts r d key node base record) : record.key = key := by
  cases starts with
  | known found => rw [SensorRecord.key_settle, key_of_find? found]
  | new => rfl

theorem Starts.placedAs {key : SensorKey} {node : Placement} {base : Detector}
    {record : SensorRecord} (starts : Starts r d key node base record) :
    record.placedAs node = true := by
  cases starts with
  | known found => exact SensorRecord.placedAs_settle _ node
  | new => simp [SensorRecord.placedAs, SensorRecord.fresh]

theorem track_cases (d : Detector) (r : Registry) (key : SensorKey) (node : Placement) :
    (∃ base record, Starts r d key node base record ∧
      d.track r key node = (.ok record, base.put record)) ∨
    (d.find? key = none ∧ d.capacity ≤ (d.makeRoom r).records.length ∧
      d.track r key node =
        (.error (.capacityExhausted "debounce records" d.capacity), d.makeRoom r)) := by
  unfold track
  split
  · next old found => exact .inl ⟨d, _, .known found, rfl⟩
  · next unknown =>
    by_cases full : (d.makeRoom r).capacity ≤ (d.makeRoom r).records.length
    · rw [capacity_makeRoom] at full
      refine .inr ⟨unknown, full, ?_⟩
      simp only [capacity_makeRoom, full, if_true]
    · refine .inl ⟨d.makeRoom r, _, .new unknown (Nat.not_le.1 full), ?_⟩
      simp only [full, if_false]

theorem sense_ok {detection : Detection} (ok : (sense p r false d g event).1 = .ok detection) :
    ∃ node facing base record, r.find? event.node = some node ∧
      (event.rotation + node.rotation).facing? = some facing ∧
      Starts r d event.key node base record ∧
      detection.grown = (if record.state = detection.state then []
        else { record with state := detection.state }.cells p node) ∧
      (sense p r false d g event).2 = (base.put { record with state := detection.state },
        growAll p (p.growth event.key.kind) g detection.grown) := by
  cases found : r.find? event.node with
  | none =>
    simp only [sense, found] at ok
    contradiction
  | some node =>
    cases looking : (event.rotation + node.rotation).facing? with
    | none =>
      simp only [sense, found, looking] at ok
      contradiction
    | some facing =>
      obtain ⟨base, record, starts, tracked⟩ | ⟨-, -, tracked⟩ := track_cases d r event.key node
      · refine ⟨node, facing, base, record, rfl, looking, starts, ?_⟩
        simp only [sense, found, looking, tracked, Bool.false_eq_true, if_false] at ok ⊢
        by_cases repeated : record.state = r.state p node facing event.reading
        · simp only [repeated, if_true] at ok ⊢
          obtain rfl := Except.ok.inj ok
          refine ⟨by simp, ?_⟩
          rw [← repeated]
          rfl
        · simp only [repeated, if_false] at ok ⊢
          obtain rfl := Except.ok.inj ok
          refine ⟨by simp [repeated], ?_⟩
          rw [put_put]
          rfl
      · simp only [sense, found, looking, tracked] at ok
        contradiction

theorem find?_of_sense_ok {suppressed : Bool} {detection : Detection}
    (ok : (sense p r suppressed d g event).1 = .ok detection) :
    ∃ node, r.find? event.node = some node := by
  cases found : r.find? event.node with
  | none =>
    simp only [sense, found] at ok
    contradiction
  | some node => exact ⟨node, rfl⟩

theorem sense_grows {detection : Detection} (ok : (sense p r false d g event).1 = .ok detection)
    (active : detection.state.isActive)
    (rests : ∀ node base record, Starts r d event.key node base record →
      record.state.isActive = false) :
    ∃ node facing, r.find? event.node = some node ∧
      (event.rotation + node.rotation).facing? = some facing ∧
      (sense p r false d g event).2.2 = growAll p (p.growth event.key.kind) g
        (p.grid.ahead (detection.state.origin node.position facing) facing) := by
  obtain ⟨node, facing, base, record, standing, looking, starts, grown, after⟩ := sense_ok ok
  have differs : record.state ≠ detection.state := fun repeated => by
    have inactive := rests node base record starts
    rw [repeated, active] at inactive
    contradiction
  have cells : detection.grown =
      p.grid.ahead (detection.state.origin node.position facing) facing := by
    rw [grown, if_neg differs]
    refine SensorRecord.cells_of_active active starts.placedAs ?_
    rw [starts.key_eq]
    exact looking
  exact ⟨node, facing, standing, looking, by rw [after, cells]⟩

theorem sense_suppressed (p : Parameters) (r : Registry) (d : Detector) (g : ActivityGrid)
    (event : SensorEvent) : (sense p r true d g event).2 = (d, g) := by
  unfold sense
  split
  · rfl
  · simp only
    split <;> rfl

/-- An event is refused for its placement, which changes nothing, or for lack of room even without
the stale records, which are gone. -/
theorem sense_error {suppressed : Bool} {fault : Fault}
    (refused : (sense p r suppressed d g event).1 = .error fault) :
    (fault.isFatal = false ∧ (sense p r suppressed d g event).2.1 = d) ∨
    (fault = .capacityExhausted "debounce records" d.capacity ∧ d.find? event.key = none ∧
      (∃ node, r.find? event.node = some node) ∧ d.capacity ≤ (d.makeRoom r).records.length ∧
      (sense p r suppressed d g event).2.1 = d.makeRoom r) := by
  cases found : r.find? event.node with
  | none =>
    simp only [sense, found] at refused ⊢
    obtain rfl := Except.error.inj refused
    exact .inl ⟨rfl, trivial⟩
  | some node =>
    cases looking : (event.rotation + node.rotation).facing? with
    | none =>
      simp only [sense, found, looking] at refused ⊢
      obtain rfl := Except.error.inj refused
      exact .inl ⟨rfl, trivial⟩
    | some facing =>
      simp only [sense, found, looking] at refused ⊢
      split at refused
      · contradiction
      · next heard =>
        rw [if_neg heard]
        obtain ⟨base, record, -, tracked⟩ | ⟨unknown, full, tracked⟩ :=
          track_cases d r event.key node
        · simp only [tracked] at refused
          split at refused <;> contradiction
        · simp only [tracked] at refused ⊢
          exact .inr ⟨(Except.error.inj refused).symm, unknown, ⟨node, rfl⟩, full, trivial⟩

theorem fault_of_sense {suppressed : Bool} {fault : Fault}
    (refused : (sense p r suppressed d g event).1 = .error fault) (fatal : fault.isFatal) :
    fault = .capacityExhausted "debounce records" d.capacity := by
  rcases sense_error refused with ⟨harmless, -⟩ | ⟨full, -⟩
  · rw [harmless] at fatal
    contradiction
  · exact full

theorem key_of_sense_ok {suppressed : Bool} {detection : Detection}
    (ok : (sense p r suppressed d g event).1 = .ok detection) : detection.key = event.key := by
  unfold sense at ok
  split at ok
  · contradiction
  · simp only at ok
    split at ok
    · contradiction
    · split at ok
      · exact Except.ok.inj ok ▸ rfl
      · split at ok
        · contradiction
        · split at ok
          · exact Except.ok.inj ok ▸ rfl
          · exact Except.ok.inj ok ▸ rfl

theorem sense_cases (p : Parameters) (r : Registry) (suppressed : Bool) (d : Detector)
    (g : ActivityGrid) (event : SensorEvent) :
    ∃ base, (base = d ∨ base = d.makeRoom r) ∧
      ((sense p r suppressed d g event).2.1 = base ∨
        ∃ record, record.key = event.key ∧ (r.find? event.node).isSome ∧
          (sense p r suppressed d g event).2.1 = base.put record) := by
  cases suppressed with
  | true => exact ⟨d, .inl rfl, .inl (by rw [sense_suppressed])⟩
  | false =>
    cases result : (sense p r false d g event).1 with
    | error fault =>
      rcases sense_error result with ⟨-, same⟩ | ⟨-, -, -, -, dropped⟩
      · exact ⟨d, .inl rfl, .inl same⟩
      · exact ⟨_, .inr rfl, .inl dropped⟩
    | ok detection =>
      obtain ⟨node, -, base, record, standing, -, starts, -, after⟩ := sense_ok result
      refine ⟨base, ?_, .inr ⟨{ record with state := detection.state }, starts.key_eq,
        by rw [standing]; rfl, by rw [after]⟩⟩
      cases starts with
      | known => exact .inl rfl
      | new => exact .inr rfl

theorem capacity_sense (p : Parameters) (r : Registry) (suppressed : Bool) (d : Detector)
    (g : ActivityGrid) (event : SensorEvent) :
    (sense p r suppressed d g event).2.1.capacity = d.capacity := by
  obtain ⟨base, from_, after⟩ := sense_cases p r suppressed d g event
  have same : base.capacity = d.capacity := by
    rcases from_ with rfl | rfl
    · rfl
    · exact capacity_makeRoom
  rcases after with kept | ⟨record, -, -, put⟩
  · rw [kept, same]
  · rw [put]
    exact same

theorem nodup_keys_sense {suppressed : Bool} (distinct : d.keys.Nodup) :
    (sense p r suppressed d g event).2.1.keys.Nodup := by
  obtain ⟨base, from_, after⟩ := sense_cases p r suppressed d g event
  have apart : base.keys.Nodup := by
    rcases from_ with rfl | rfl
    · exact distinct
    · exact nodup_keys_makeRoom distinct
  rcases after with kept | ⟨record, -, -, put⟩
  · exact kept ▸ apart
  · exact put ▸ nodup_keys_put record apart

theorem mem_keys_sense {suppressed : Bool} {k : SensorKey}
    (member : k ∈ (sense p r suppressed d g event).2.1.keys) :
    k ∈ d.keys ∨ k = event.key ∧ (r.find? event.node).isSome := by
  obtain ⟨base, from_, after⟩ := sense_cases p r suppressed d g event
  have among : base.keys ⊆ d.keys := by
    rcases from_ with rfl | rfl
    · exact List.Subset.refl _
    · exact keys_makeRoom_subset
  rcases after with kept | ⟨record, own, standing, put⟩
  · exact .inl (among (kept ▸ member))
  · rw [put, keys_put] at member
    split at member
    · exact .inl (among member)
    · rcases List.mem_append.1 member with old | new
      · exact .inl (among old)
      · exact .inr ⟨(List.mem_singleton.1 new).trans own, standing⟩

/-- The sensor has a record or there is room for one, if only without the stale records. -/
def Admits (d : Detector) (r : Registry) (key : SensorKey) : Prop :=
  key ∈ d.keys ∨ (d.makeRoom r).keys.length < d.capacity

instance (d : Detector) (r : Registry) (key : SensorKey) : Decidable (d.Admits r key) :=
  inferInstanceAs (Decidable (_ ∨ _))

theorem exists_track_iff {key : SensorKey} (node : Placement) :
    (∃ record, (d.track r key node).1 = .ok record) ↔ d.Admits r key := by
  have length : (d.makeRoom r).keys.length = (d.makeRoom r).records.length := List.length_map _
  obtain ⟨base, record, starts, tracked⟩ | ⟨unknown, full, tracked⟩ := track_cases d r key node
  · rw [tracked]
    refine ⟨fun _ => ?_, fun _ => ⟨record, rfl⟩⟩
    cases starts with
    | known found =>
      refine .inl (not_not.1 fun absent => ?_)
      rw [find?_eq_none_iff.2 absent] at found
      contradiction
    | new unknown room =>
      rw [capacity_makeRoom] at room
      exact .inr (length ▸ room)
  · rw [tracked]
    constructor
    · rintro ⟨record, impossible⟩
      contradiction
    · rintro (member | room)
      · exact absurd member (find?_eq_none_iff.1 unknown)
      · omega

/-- The state that an event is reduced to, if it can be placed and recorded. -/
def sensedState? (p : Parameters) (r : Registry) (suppressed : Bool) (d : Detector)
    (g : ActivityGrid) (event : SensorEvent) : Option SensorState :=
  (sense p r suppressed d g event).1.toOption.map Detection.state

theorem sensedState?_eq (p : Parameters) (r : Registry) (suppressed : Bool) (d : Detector)
    (g : ActivityGrid) (event : SensorEvent) :
    sensedState? p r suppressed d g event = (r.find? event.node).bind fun node =>
      (event.rotation + node.rotation).facing?.bind fun facing =>
        if suppressed ∨ d.Admits r event.key then some (r.state p node facing event.reading)
        else none := by
  cases found : r.find? event.node with
  | none =>
    simp only [sensedState?, sense, found]
    rfl
  | some node =>
    cases looking : (event.rotation + node.rotation).facing? with
    | none =>
      simp only [sensedState?, sense, found, looking]
      rw [Option.bind_some, looking]
      rfl
    | some facing =>
      rw [Option.bind_some, looking, Option.bind_some]
      simp only [sensedState?, sense, found, looking]
      cases suppressed with
      | true => rfl
      | false =>
        by_cases admits : d.Admits r event.key
        · obtain ⟨record, tracked⟩ := (exists_track_iff node).2 admits
          have room : false = true ∨ d.Admits r event.key := .inr admits
          simp only [if_pos room]
          generalize d.track r event.key node = outcome at tracked ⊢
          obtain ⟨result, next⟩ := outcome
          obtain rfl : result = .ok record := tracked
          simp only [Bool.false_eq_true, if_false]
          split <;> rfl
        · have full : ¬(false = true ∨ d.Admits r event.key) := by simp [admits]
          have refused : ∀ record, (d.track r event.key node).1 ≠ .ok record :=
            fun record tracked => admits ((exists_track_iff node).1 ⟨record, tracked⟩)
          simp only [if_neg full]
          generalize d.track r event.key node = outcome at refused ⊢
          obtain ⟨fault | record, next⟩ := outcome
          · rfl
          · exact absurd rfl (refused record)

end WildlifeWarning.Detector
