import WildlifeWarning.Proofs.HealthLog

/-! Which sensors the flags name once a change of placements is taken over.
A record goes with its sensor, silence with its mount. So a flag may outlive its sensor where the
node's new type has another kind of sensor on the same mount, and that is the front mount: the types
agree on what the other mounts carry. -/

namespace WildlifeWarning

def SensorKey.Fitted (k : SensorKey) : Prop := ∃ t : NodeType, (k.rotation, k.kind) ∈ t.sensors

theorem Registry.fitted_of_mem_sensors {r : Registry} {k : SensorKey} (carried : k ∈ r.sensors) :
    k.Fitted := by
  obtain ⟨p, -, own⟩ := List.mem_flatMap.1 carried
  obtain ⟨⟨rotation, kind⟩, member, rfl⟩ := List.mem_map.1 own
  exact ⟨p.type, member⟩

/-- Only in front do types of nodes have different kinds of sensors. -/
theorem NodeType.rotation_of_kind_ne (t u : NodeType) :
    ∀ a ∈ t.sensors, ∀ b ∈ u.sensors, a.1 = b.1 → a.2 ≠ b.2 → b.1 = Facing.up.octant := by
  cases t <;> cases u <;> decide

theorem SensorKey.Fitted.rotation_eq {k l : SensorKey} (fitted : k.Fitted) (fitted' : l.Fitted)
    (mount : k.mount = l.mount) (differ : k.kind ≠ l.kind) : l.rotation = Facing.up.octant := by
  obtain ⟨t, first⟩ := fitted
  obtain ⟨u, second⟩ := fitted'
  exact t.rotation_of_kind_ne u _ first _ second (congrArg Mount.rotation mount) differ

theorem SensorKey.eq_of_mount {k l : SensorKey} (same : k.mount = l.mount)
    (kind : k.kind = l.kind) : k = l := by
  cases k
  cases l
  simp_all [mount]

namespace SensorHealth

variable {p : Parameters} {h : SensorHealth} {r : Registry} {c : HealthChange} {k : SensorKey}

theorem fitted_answer (p : Parameters) (occasion : Occasion) (fitted : ∀ k ∈ h.silent, k.Fitted) :
    ∀ k ∈ (h.answer p occasion).2.silent, k.Fitted := by
  intro k member
  cases occasion with
  | event key minute =>
    simp only [answer] at member
    split at member
    · next recorded => exact fitted k ((silent_record recorded).1 k member)
    · exact fitted k member
  | minute => exact fitted k member
  | day r =>
    rcases mem_silent_evaluateInactivity member with old | new
    · exact fitted k old
    · exact Registry.fitted_of_mem_sensors new
  | placements r => exact fitted k (List.mem_filter.1 member).1

theorem fitted_answers (p : Parameters) (occasions : List Occasion)
    (fitted : ∀ k ∈ h.silent, k.Fitted) : ∀ k ∈ (h.answers p occasions).2.silent, k.Fitted := by
  induction occasions generalizing h with
  | nil => exact fitted
  | cons occasion rest ih => exact ih (fitted_answer p occasion fitted)

theorem mem_flagged_sync_iff : c ∈ (h.sync r).2.flagged ↔ c ∈ h.flagged ∧
    (c.condition = .hyperactive → c.key ∈ r.sensors) ∧
    (c.condition = .inactive → ∃ k ∈ r.sensors, k.mount = c.key.mount) := by
  simp only [flagged, sync, List.mem_append, List.mem_map, List.mem_filter, decide_eq_true_eq]
  grind

theorem mem_silent_of_flagged (flagged : c ∈ h.flagged) (condition : c.condition = .inactive) :
    c.key ∈ h.silent := by
  rcases List.mem_append.1 flagged with crowded | silent
  · obtain ⟨e, -, rfl⟩ := List.mem_map.1 crowded
    contradiction
  · obtain ⟨k, among, rfl⟩ := List.mem_map.1 silent
    exact among

/-- After any run of the records, when the placements are taken over: a flag names a sensor that
a registered node carries, unless it is of a silent front mount, where the node now carries the
other kind of sensor; and no flag of a sensor that is carried is lost. -/
theorem flags_name_carried (p : Parameters) (capacity : Nat) (occasions : List Occasion)
    (r : Registry) :
    let h := (({ capacity } : SensorHealth).answers p occasions).2
    (∀ c ∈ (h.sync r).2.flagged, c.key ∈ r.sensors ∨
      c.condition = .inactive ∧ c.key.rotation = Facing.up.octant ∧
        ∃ k ∈ r.sensors, k.mount = c.key.mount ∧ k.kind ≠ c.key.kind) ∧
    ∀ c ∈ h.flagged, c.key ∈ r.sensors → c ∈ (h.sync r).2.flagged := by
  intro h
  refine ⟨fun c flagged => ?_, fun c flagged carried => ?_⟩
  · obtain ⟨before, crowded, silent⟩ := mem_flagged_sync_iff.1 flagged
    by_cases carried : c.key ∈ r.sensors
    · exact .inl carried
    cases condition : c.condition with
    | hyperactive => exact absurd (crowded condition) carried
    | inactive =>
      obtain ⟨k, there, mount⟩ := silent condition
      have differ : k.kind ≠ c.key.kind := fun kind =>
        carried (SensorKey.eq_of_mount mount kind ▸ there)
      have fitted : c.key.Fitted := fitted_answers (h := { capacity }) p occasions (by simp) _
        (mem_silent_of_flagged before condition)
      exact .inr ⟨rfl, (Registry.fitted_of_mem_sensors there).rotation_eq fitted mount differ,
        k, there, mount, differ⟩
  · exact mem_flagged_sync_iff.2 ⟨flagged, fun _ => carried, fun _ => ⟨c.key, carried, rfl⟩⟩

def stands (node : NodeId) (type : NodeType) : Placement :=
  ⟨node, ⟨0, 1⟩, .zero, Facing.down.octant, type⟩

def rangers : Registry := ⟨9, [stands 1 .pirLidar, stands 2 .pirPir], true⟩

/-- The first node has its ranging sensor replaced by a motion sensor. -/
def refitted : Registry := ⟨9, [stands 1 .pirPir, stands 2 .pirPir], true⟩

/-- After a silent day the flag of the ranging sensor stays, though a motion sensor took its mount;
the flag beside it goes, and those of the other node stay. -/
theorem flags_name_carried_refitted :
    let h := (({ capacity := 18 } : SensorHealth).answers {} [.day rangers]).2
    let front (node : NodeId) (kind : SensorKind) : SensorKey := ⟨node, Facing.up.octant, kind⟩
    (h.sync refitted).2.flagged.map HealthChange.key =
      [front 1 .ranging, front 2 .motion, ⟨2, Facing.left.octant, .motion⟩] ∧
    (∀ k ∈ [front 1 .ranging, front 2 .motion], k ∈ refitted.sensors ∨
      k.rotation = Facing.up.octant ∧ ∃ l ∈ refitted.sensors, l.mount = k.mount ∧ l.kind ≠ k.kind) ∧
    ⟨front 2 .motion, .inactive, true⟩ ∈ (h.sync refitted).2.flagged := by
  intro h front
  have names := flags_name_carried {} 18 [.day rangers] refitted
  refine ⟨by decide +kernel, fun k member => ?_, names.2 _ (by decide +kernel) (by decide +kernel)⟩
  have flagged : ∀ k ∈ [front 1 .ranging, front 2 .motion],
      ⟨k, .inactive, true⟩ ∈ (h.sync refitted).2.flagged := by decide +kernel
  exact (names.1 _ (flagged k member)).imp_right fun silent => silent.2

/-- The flag of a sensor that no node carries any more outlives the change of placements. -/
theorem flag_outlives_sensor :
    let h := (({ capacity := 18 } : SensorHealth).answers {} [.day rangers]).2
    let ranging : SensorKey := ⟨1, Facing.up.octant, .ranging⟩
    ⟨ranging, .inactive, true⟩ ∈ (h.sync refitted).2.flagged ∧ ranging ∉ refitted.sensors := by
  decide +kernel

end SensorHealth

end WildlifeWarning
