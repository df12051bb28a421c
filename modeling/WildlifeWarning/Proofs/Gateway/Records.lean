import WildlifeWarning.Proofs.Air.Room
import WildlifeWarning.Proofs.Gateway.Laws

/-! Room for the records of the carried sensors.
The debounce records and the health records are brought in line with the placements before every
event, even behind calls that were refused. From then on they know carried sensors only, and no node
carries more than two: stale records take no room that a carried sensor needs. -/

namespace WildlifeWarning

def Fault.OfRecords (fault : Fault) : Prop :=
  ∃ capacity, fault = .capacityExhausted "debounce records" capacity ∨
    fault = .capacityExhausted "sensor activity records" capacity

namespace Gateway

open Step

/-- Every sensor event is of a node that is not registered at the time, or of a sensor that the node
carries at the time. -/
def hearsCarried (g : Gateway) : List Call → Bool
  | [] => true
  | .stimulus (.sensor event) :: rest =>
    (g.registry.find? event.node).all (fun node => node.sensors.contains event.key) &&
      (g.take (.stimulus (.sensor event))).hearsCarried rest
  | c :: rest => (g.take c).hearsCarried rest

theorem carried_of_hearsCarried {g : Gateway} {earlier later : List Call} {event : SensorEvent}
    (hears : g.hearsCarried (earlier ++ .stimulus (.sensor event) :: later)) :
    ∀ node, (g.served earlier).registry.find? event.node = some node →
      event.key ∈ node.sensors := by
  induction earlier generalizing g with
  | nil =>
    intro node found
    have own := (Bool.and_eq_true_iff.1 hears).1
    rw [served_nil] at found
    simpa [found] using own
  | cons c rest ih =>
    refine ih (g := g.take c) ?_
    unfold hearsCarried at hears
    split at hears
    · contradiction
    · next same =>
      obtain ⟨rfl, rfl⟩ := List.cons.inj same
      exact (Bool.and_eq_true_iff.1 hears).2
    · next same =>
      obtain ⟨rfl, rfl⟩ := List.cons.inj same
      exact hears

/-- Once the placements are taken over, only carried sensors are on record. -/
structure Housed (d : Deployment) (g : Gateway) : Prop where
  capacity : g.registry.capacity = d.nodeCapacity
  fits : g.registry.nodes.length ≤ d.nodeCapacity
  records : g.detector.capacity = d.sensorCapacity
  distinct : g.health.keys.Nodup
  debounced : g.registry.changed = false → g.detector.keys ⊆ g.registry.sensors
  noted : g.registry.changed = false → g.health.keys ⊆ g.registry.sensors

variable {p : Parameters} {d : Deployment} {g t : Gateway} {event : SensorEvent}

theorem housed_fresh (p : Parameters) (d : Deployment) (alerts : AlertPanel) :
    (fresh p d alerts).Housed d := by
  refine ⟨rfl, Nat.zero_le _, rfl, List.nodup_nil, ?_, ?_⟩
  · intro _ k member
    contradiction
  · intro _ k member
    contradiction

theorem Housed.congr (housed : g.Housed d) (registry : t.registry = g.registry)
    (detector : t.detector = g.detector) (keys : t.health.keys = g.health.keys) : t.Housed d := by
  constructor
  · rw [registry]
    exact housed.capacity
  · rw [registry]
    exact housed.fits
  · rw [detector]
    exact housed.records
  · rw [keys]
    exact housed.distinct
  · rw [registry, detector]
    exact housed.debounced
  · rw [registry, keys]
    exact housed.noted

theorem nodes_synced (g : Gateway) : g.synced.registry.nodes = g.registry.nodes := by
  unfold synced
  split
  · rfl
  · rfl

theorem housed_synced (orderly : g.Orderly p) (housed : g.Housed d) : g.synced.Housed d := by
  unfold synced
  split
  · refine ⟨housed.capacity, housed.fits, housed.records, ?_, ?_, ?_⟩
    · change (g.health.sync g.registry).2.keys.Nodup
      rw [SensorHealth.keys_sync]
      exact housed.distinct.filter _
    · intro _ k member
      change k ∈ (g.detector.sync g.registry).keys at member
      rw [Detector.keys_sync] at member
      exact (Registry.isSome_carrier?_iff orderly.distinct).1 (List.mem_filter.1 member).2
    · intro _ k member
      change k ∈ (g.health.sync g.registry).2.keys at member
      rw [SensorHealth.keys_sync] at member
      have carried : k ∈ g.registry.sensors := by simpa using (List.mem_filter.1 member).2
      exact carried
  · exact housed

theorem length_lt_of_carried (housed : g.Housed d) (room : 2 * d.nodeCapacity ≤ d.sensorCapacity)
    {keys : List SensorKey} {k : SensorKey} (distinct : keys.Nodup)
    (among : keys ⊆ g.registry.sensors) (carried : k ∈ g.registry.sensors) (new : k ∉ keys) :
    keys.length < d.sensorCapacity := by
  have fewer := length_lt_of_new distinct among carried new
  have two := g.registry.length_sensors_le
  have fits := housed.fits
  omega

def Owns (g : Gateway) (event : SensorEvent) : Prop :=
  ∀ node, g.registry.find? event.node = some node → event.key ∈ node.sensors

theorem owns_synced (own : g.Owns event) : g.synced.Owns event := by
  intro node found
  rw [Registry.find?, nodes_synced] at found
  exact own node found

theorem carried_of_sensed (own : g.Owns event) {detection : Detection}
    (ok : (g.sensed event).1 = .ok detection) : event.key ∈ g.registry.sensors := by
  obtain ⟨node, found⟩ := Detector.find?_of_sense_ok ok
  exact Registry.mem_sensors_of_find? found (own node found)

theorem keys_sensed (own : g.Owns event) (among : g.detector.keys ⊆ g.registry.sensors) :
    (g.sensed event).2.1.keys ⊆ g.registry.sensors := by
  intro k member
  rcases Detector.mem_keys_sense member with old | ⟨rfl, registered⟩
  · exact among old
  · obtain ⟨node, standing⟩ := Option.isSome_iff_exists.1 registered
    exact Registry.mem_sensors_of_find? standing (own node standing)

theorem housed_taken (housed : g.Housed d) (settled : g.registry.changed = false)
    (own : g.Owns event) : (g.taken event).Housed d := by
  have detector := keys_sensed own (housed.debounced settled)
  have kept : (g.sensed event).2.1.capacity = g.detector.capacity :=
    Detector.capacity_sense _ _ _ _ _ _
  have capacity := kept.trans housed.records
  have unnoted : (g.detected event).Housed d :=
    ⟨housed.capacity, housed.fits, capacity, housed.distinct, fun _ => detector, housed.noted⟩
  unfold taken
  split
  · next detection ok =>
    have carried := carried_of_sensed own ok
    simp only [Gateway.noted]
    split
    · next cleared health recorded =>
      refine ⟨housed.capacity, housed.fits, capacity,
        SensorHealth.nodup_keys_record housed.distinct recorded, fun _ => detector, ?_⟩
      intro _ k member
      rcases SensorHealth.mem_keys_record recorded member with old | rfl
      · exact housed.noted settled old
      · exact carried
    · exact unnoted
  · exact unnoted

theorem housed_of_effect {through : Bool} {s : Stimulus} (orderly : g.Orderly p)
    (housed : g.Housed d) (own : ∀ event, s = .sensor event → g.Owns event)
    (effect : Effect g through s t) : t.Housed d := by
  have synced := housed_synced orderly housed
  cases effect with
  | quiet health minute air same => exact housed.congr rfl rfl same.keys
  | placed placement asked accepted =>
    obtain ⟨capacity, fits⟩ := Registry.length_accept (housed.capacity ▸ housed.fits) accepted
    have changed := congrArg Registry.changed (Registry.accept_eq_ok accepted)
    refine ⟨capacity.trans housed.capacity, housed.capacity ▸ fits, housed.records,
      housed.distinct, ?_, ?_⟩
    · intro unchanged
      exact absurd (changed.symm.trans unchanged) (by simp)
    · intro unchanged
      exact absurd (changed.symm.trans unchanged) (by simp)
  | stopped => exact synced.congr rfl rfl rfl
  | sensed event =>
    have taken := housed_taken synced (changed_synced g)
      (owns_synced (own event rfl))
    exact taken.congr rfl rfl rfl
  | second clock minute health outbox echoed air same => exact synced.congr rfl rfl same.keys

theorem admits_of_housed (orderly : g.Orderly p) (housed : g.Housed d)
    (room : 2 * d.nodeCapacity ≤ d.sensorCapacity) (settled : g.registry.changed = false)
    (own : g.Owns event) : g.Admits event := by
  constructor
  · intro fault refused
    rcases Detector.sense_error refused with ⟨harmless, -⟩ | ⟨-, unknown, ⟨node, found⟩, full, -⟩
    · exact harmless
    · have dropped := Detector.keys_makeRoom_subset (d := g.detector) (r := g.registry)
      have fewer := length_lt_of_carried housed room (Detector.nodup_keys_makeRoom orderly.keys)
        (List.Subset.trans dropped (housed.debounced settled))
        (Registry.mem_sensors_of_find? found (own node found))
        fun member => Detector.find?_eq_none_iff.1 unknown (dropped member)
      rw [Detector.keys, List.length_map, ← housed.records] at fewer
      exact absurd full (Nat.not_le.2 fewer)
  · intro detection ok
    refine SensorHealth.record_of_room fun new => ?_
    rw [← orderly.capacity, housed.records]
    exact length_lt_of_carried housed room housed.distinct (housed.noted settled)
      (carried_of_sensed own ok) new

variable {J : Airtime → Prop} {E : Fault → Airtime → Prop}

theorem ends_note_of_ok (stable : StableOnAir .all J E) (kept : J g.air) {key : SensorKey}
    {result : Option HealthChange × SensorHealth}
    (recorded : g.health.record g.parameters key g.minute = .ok result) :
    (note key).Ends g (fun _ t => J t.air) fun fault t => E fault t.air := by
  simp only [note, ends_bind, ends_get, recorded, ends_set]
  exact (keeps_announces stable fun _ _ => trivial).air _ kept

theorem ends_sense_of_admits (stable : StableOnAir .all J E) (kept : J g.air)
    (admits : g.synced.Admits event) :
    (sense event).Ends g (fun _ t => J t.air) fun fault t => E fault t.air := by
  refine (ends_bind _ _).2 (((ends_sync g).and ((keeps_sync stable).air g kept)).mono ?_
    fun _ _ refused => refused.2)
  rintro ⟨⟩ - ⟨⟨air, rfl⟩, kept⟩
  refine (ends_bind _ _).2 ((ends_detect _ event).mono ?_ ?_)
  · rintro result - ⟨rfl, rfl, -⟩
    cases sensed : ({ g.synced with air }.sensed event).1 with
    | error fault => exact kept
    | ok detection =>
      obtain ⟨result, recorded⟩ := admits.2 detection sensed
      refine (ends_bind _ _).2 ((ends_note_of_ok (g := { g.synced.detected event with air }) stable
        kept recorded).mono ?_ fun _ _ refused => refused)
      intro _ t kept
      have reported : KeepsIn .all J E (do
          onAir (Airtime.forward (sample event detection.state))
          detection.grown.forM echo) :=
        (keeps_onAir (stable.forward _ (tag_sample _ _))).bind fun _ =>
          Keeps.forM fun c _ => keeps_echo stable c
      exact reported.air t kept
  · rintro fault - ⟨refused, fatal, rfl⟩
    rw [admits.1 fault refused] at fatal
    contradiction

theorem kept_unrecorded : ({} : Laws).KeptOnAir .all fun fault => ¬fault.OfRecords where
  push _ _ _ _ := trivial
  acknowledgeSample _ _ _ _ _ _ := trivial
  indicatorEcho := Laws.ofBoard_serves Airtime.indicatorBoard _
    (by simp [Fault.OfRecords, Airtime.indicatorBoard])
  activityEcho := Laws.ofBoard_serves Airtime.activityBoard _
    (by simp [Fault.OfRecords, Airtime.activityBoard])
  report h r _ _ _ := by
    cases reported : h.report r with
    | error fault =>
      rw [HealthReports.fault_of_report reported]
      simp [Answers, Fault.OfRecords]
    | ok answer => trivial
  acknowledgeReport _ _ _ _ _ _ := trivial
  silence _ _ := trivial
  unaired := by simp [Fault.OfRecords]

structure Recorded (p : Parameters) (d : Deployment) (g : Gateway) : Prop where
  orderly : g.Orderly p
  housed : g.Housed d
  hold : ({} : Laws).Hold g.air

theorem ends_on_recorded {s : Stimulus} (room : 2 * d.nodeCapacity ≤ d.sensorCapacity)
    (recorded : g.Recorded p d) (own : ∀ event, s = .sensor event → g.Owns event) :
    (on s).Ends g (fun _ t => ({} : Laws).Hold t.air)
      fun fault t => ¬fault.OfRecords ∧ ({} : Laws).Hold t.air := by
  have covers := fun t : Gateway => Scope.all_covers t.parameters t.registry t.health
  have stable := kept_unrecorded.stable
  refine (ends_on_unless_sensed stable ?_ ⟨covers g, recorded.hold⟩
    (Scope.all_allows _ s) ?_).mono (fun _ _ h => h.2) fun _ _ h => h.2
  · exact fun capacity air hold => ⟨by simp [Fault.OfRecords], hold⟩
  · rintro event rfl
    have admits := admits_of_housed (orderly_synced recorded.orderly)
      (housed_synced recorded.orderly recorded.housed) room (changed_synced g)
      (owns_synced (own event rfl))
    exact (ends_sense_of_admits stable recorded.hold admits).mono
      (fun _ t hold => ⟨covers t, hold⟩) fun _ t refused => ⟨covers t, refused⟩

theorem recorded_on {s : Stimulus} (room : 2 * d.nodeCapacity ≤ d.sensorCapacity)
    (recorded : g.Recorded p d) (own : ∀ event, s = .sensor event → g.Owns event) :
    ((on s).after g).2.Recorded p d := by
  obtain ⟨through, -, effect⟩ := effect_after g s
  exact ⟨orderly_of_effect recorded.orderly effect,
    housed_of_effect recorded.orderly recorded.housed own effect,
    ((ends_on_recorded room recorded own).mono (fun _ _ hold => hold) fun _ _ h => h.2).after⟩

theorem recorded_served {calls : List Call} (room : 2 * d.nodeCapacity ≤ d.sensorCapacity)
    (recorded : g.Recorded p d) (heard : g.hearsCarried calls) (earlier later : List Call)
    (split : calls = earlier ++ later) : (g.served earlier).Recorded p d := by
  refine served_induction (I := fun t => t.Recorded p d) recorded ?_ earlier later split
  intro earlier c later split recorded
  cases c with
  | drain =>
    have housed : (g.served earlier).drain.2.Housed d := recorded.housed.congr rfl rfl rfl
    exact ⟨orderly_drain recorded.orderly, housed, recorded.hold⟩
  | stimulus s =>
    refine recorded_on room recorded ?_
    rintro event rfl
    exact carried_of_hearsCarried (split ▸ heard)

/-- Where there are records for two sensors of each node and every event comes from a sensor that
its node carries, if there is such a node, neither the debounce records nor the health records run
out, however the nodes are placed anew. -/
theorem records_find_room (calls : List Call) (built : build p d = .ok g)
    (room : 2 * d.nodeCapacity ≤ d.sensorCapacity) (heard : g.hearsCarried calls) :
    ∀ earlier s later, calls = earlier ++ .stimulus s :: later → ∀ fault,
      ((on s).after (g.served earlier)).1 = .error fault → ¬fault.OfRecords := by
  intro earlier s later split fault refused
  obtain ⟨-, cols, rows, rfl⟩ := build_eq_ok built
  have start : (fresh p d {}).Recorded p d :=
    ⟨orderly_fresh p d {}, housed_fresh p d {}, hold_fresh {} ⟨cols, rows⟩ trivial
      (EchoBoard.serves_self (Nat.zero_le _)) (EchoBoard.serves_self (Nat.zero_le _)) trivial⟩
  have recorded := recorded_served room start heard earlier _ split
  refine ((ends_on_recorded room recorded ?_).of_error refused).1
  rintro event rfl
  exact carried_of_hearsCarried (split ▸ heard)

def fit (type : NodeType) : Call :=
  .stimulus (.placement ⟨1, ⟨-1, -1⟩, .zero, Facing.up.octant, type⟩)

def heardAt (node : NodeId) (facing : Facing) (reading : Reading) : Call :=
  .stimulus (.sensor ⟨node, facing.octant, reading⟩)

/-- A node is heard of on both its sensors, is fitted with two others and is heard of on these. Last
comes an event of a node that is not registered. -/
def refitted : List Call :=
  [fit .pirLidar, heardAt 1 .up (.ranging 350), heardAt 1 .right (.motion true), fit .pirPir,
    heardAt 1 .left (.motion true), heardAt 1 .up (.motion true), heardAt 2 .up (.motion true)]

def single : Deployment := { nodeCapacity := 1, sensorCapacity := 2 }

/-- The records of the two old sensors are given up for the new ones. -/
theorem records_find_room_refitted :
    ((fresh {} single {}).served (refitted.take 3)).health.keys =
      [⟨1, Facing.up.octant, .ranging⟩, ⟨1, Facing.right.octant, .motion⟩] ∧
    ((fresh {} single {}).served (refitted.take 6)).health.keys =
      [⟨1, Facing.left.octant, .motion⟩, ⟨1, Facing.up.octant, .motion⟩] ∧
    ∀ fault,
      ((on (.sensor ⟨1, Facing.up.octant, .motion true⟩)).after
        ((fresh {} single {}).served (refitted.take 5))).1 = .error fault → ¬fault.OfRecords :=
  ⟨by decide +kernel, by decide +kernel,
    records_find_room refitted (build_deployed single) (by decide) (by decide +kernel) _ _
      (refitted.drop 6) rfl⟩

/-- For a sensor that its node does not carry there may be no room. -/
example : ((on (.sensor ⟨1, Facing.down.octant, .motion true⟩)).after
    ((fresh {} single {}).served (refitted.take 3))).1 =
      .error (.capacityExhausted "debounce records" 2) := by
  decide +kernel

end Gateway

end WildlifeWarning
