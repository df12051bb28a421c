import WildlifeWarning.Proofs.Air.Room
import WildlifeWarning.Proofs.Gateway.Laws

/-! Which pools of the senders are large enough for a run.
A slot that once was a sensor's or a node's is given to no other before it is acknowledged, an echo
slot not even then: what counts is how many sensors and roadside nodes the run brings, not how many
there are at a time. -/

namespace WildlifeWarning.Gateway

variable {p : Parameters} {d : Deployment} {g : Gateway} {calls : List Call}

theorem spared {l : Laws} {w : Scope} {pool : String} (orderly : g.Orderly p)
    (covers : w.Covers p g.registry g.health) (start : l.Hold g.air)
    (kept : l.Kept w fun fault => ∀ capacity, fault ≠ .capacityExhausted pool capacity)
    (allowed : ∀ earlier s later, calls = earlier ++ .stimulus s :: later →
      w.Covers p (g.served earlier).registry (g.served earlier).health → w.Allows p s) :
    ∀ earlier s later, calls = earlier ++ .stimulus s :: later → ∀ capacity,
      ((on s).after (g.served earlier)).1 ≠ .error (.capacityExhausted pool capacity) := by
  intro earlier s later split capacity full
  obtain ⟨orderly, covers, hold⟩ :=
    within_served kept.stable (fun _ _ h => h.2) orderly covers start allowed earlier _ split
  have parameters := orderly.parameters
  have ends := ends_on_in kept.stable (g := g.served earlier) ⟨parameters ▸ covers, hold⟩
    (parameters ▸ allowed earlier s later split covers)
  exact (ends.of_error full).2.1 capacity rfl

theorem mem_provisioned {earlier later : List Call} {s : Stimulus} {n : Placement}
    (split : calls = earlier ++ .stimulus s :: later) (asked : s.placement? = some n) :
    n ∈ provisioned calls :=
  List.mem_filterMap.2 ⟨.stimulus s, split ▸ List.mem_append_right _ List.mem_cons_self, asked⟩

theorem carried_of_hearsOwn {earlier later : List Call} {event : SensorEvent}
    (own : g.hearsOwn (earlier ++ .stimulus (.sensor event) :: later)) :
    event.key ∈ (g.served earlier).registry.sensors := by
  induction earlier generalizing g with
  | nil => exact List.contains_iff_mem.1 (Bool.and_eq_true_iff.1 own).1
  | cons c rest ih =>
    refine ih (g := g.take c) ?_
    unfold hearsOwn at own
    split at own
    · contradiction
    · next same =>
      obtain ⟨rfl, rfl⟩ := List.cons.inj same
      exact (Bool.and_eq_true_iff.1 own).2
    · next same =>
      obtain ⟨rfl, rfl⟩ := List.cons.inj same
      exact own

def stand (node : NodeId) (x y : Int8) : Call :=
  .stimulus (.placement ⟨node, ⟨x, y⟩, .zero, Facing.down.octant, .pirPir⟩)

section Sensors

def sensorLaws (few : List SensorKey) : Laws := { healthReports := HealthReports.Among few }

theorem kept_sensorLaws (few : List SensorKey) :
    (sensorLaws few).Kept ⟨fun k => k ∈ few, fun _ => True⟩
      fun fault => ∀ capacity, fault ≠ .capacityExhausted "sensor error reports" capacity where
  push _ _ _ _ := trivial
  acknowledgeSample _ _ _ _ _ _ := trivial
  indicatorEcho := Laws.ofBoard_serves Airtime.indicatorBoard _ (by simp [Airtime.indicatorBoard])
  activityEcho := Laws.ofBoard_serves Airtime.activityBoard _ (by simp [Airtime.activityBoard])
  report h r among known _ := by
    cases reported : h.report r with
    | error fault => exact absurd reported (HealthReports.report_of_among among known fault)
    | ok answer => exact HealthReports.among_report among known reported
  acknowledgeReport _ _ _ _ among acknowledged :=
    HealthReports.among_acknowledge among acknowledged
  silence _ among := ⟨among.apart, among.among, among.room⟩
  unaired := by simp
  full := by simp

/-- Where the nodes of a run carry no more sensors than there are slots for reports, and only those
are heard of, every report finds one. -/
theorem report_finds_room (few : List SensorKey) (calls : List Call) (built : build p d = .ok g)
    (placed : ∀ n ∈ provisioned calls, ∀ k ∈ n.sensors, k ∈ few) (heard : g.hearsOwn calls)
    (room : few.length ≤ d.sensorErrorCapacity) :
    ∀ earlier s later, calls = earlier ++ .stimulus s :: later → ∀ capacity,
      ((on s).after (g.served earlier)).1 ≠
        .error (.capacityExhausted "sensor error reports" capacity) := by
  obtain ⟨-, cols, rows, rfl⟩ := build_eq_ok built
  have silent := HealthReports.slot?_empty d.sensorErrorCapacity
  have among : (HealthReports.empty d.sensorErrorCapacity).Among few :=
    ⟨fun i j r q pending => by simp [silent] at pending,
      fun i r pending => by simp [silent] at pending,
      by simpa [HealthReports.capacity, HealthReports.empty] using room⟩
  refine spared (orderly_fresh p d {}) (Scope.covers_fresh _ p d {})
    (hold_fresh {} ⟨cols, rows⟩ trivial (EchoBoard.serves_self (Nat.zero_le _))
      (EchoBoard.serves_self (Nat.zero_le _)) among)
    (kept_sensorLaws few) ?_
  intro earlier s later split covers
  refine ⟨fun n asked => placed n (mem_provisioned split asked), fun _ _ _ _ => trivial, ?_⟩
  rintro event rfl
  exact covers.carried _ (carried_of_hearsOwn (split ▸ heard))

/-- The nine places of the field, from the road's left end on, each with its node. -/
def field : List Call :=
  [stand 1 (-1) 1, stand 2 0 1, stand 3 1 1, stand 4 (-1) 0, stand 5 0 0, stand 6 1 0,
    stand 7 (-1) (-1), stand 8 0 (-1), stand 9 1 (-1)]

/-- Eight nodes of two sensors that are silent for a day fill the table. The first of them is heard
of after all, and its report still finds room. -/
theorem report_finds_room_eight :
    ((fresh {} {} {}).served (field.take 8 ++ [.stimulus .day])).air.healthReports.pending.length =
      16 ∧
    ∀ capacity,
      ((on (motion true)).after ((fresh {} {} {}).served (field.take 8 ++ [.stimulus .day]))).1 ≠
        .error (.capacityExhausted "sensor error reports" capacity) :=
  ⟨by decide +kernel,
    report_finds_room ((provisioned (field.take 8)).flatMap Placement.sensors)
      (field.take 8 ++ [.stimulus .day, .stimulus (motion true)]) build_default (by decide +kernel)
      (by decide +kernel) (by decide +kernel) _ _ [] (by simp)⟩

/-- The nine nodes of the field carry more sensors than there are slots: a silent day halts the
gateway. -/
theorem reports_run_out :
    (provisioned (field ++ [.stimulus .day])).map Placement.node = [1, 2, 3, 4, 5, 6, 7, 8, 9] ∧
    (fresh {} {} {}).hearsOwn (field ++ [.stimulus .day]) ∧
    ((on .day).after ((fresh {} {} {}).served field)).1 =
      .error (.capacityExhausted "sensor error reports" 16) := by
  decide +kernel

end Sensors

section Nodes

def nodeLaws (few : List NodeId) : Laws := { indicatorEcho := EchoBoard.Among few }

theorem kept_nodeLaws (few : List NodeId) :
    (nodeLaws few).Kept ⟨fun _ => True, fun n => n ∈ few⟩
      fun fault => ∀ capacity, fault ≠ .capacityExhausted "indicator echo slots" capacity where
  push _ _ _ _ := trivial
  acknowledgeSample _ _ _ _ _ _ := trivial
  indicatorEcho :=
    { publish := fun b node report among known _ => by
        cases published : b.publish node report.page with
        | error fault => exact absurd published (EchoBoard.publish_of_among among known _ fault)
        | ok answer => exact EchoBoard.among_publish among known published
      acknowledge := fun _ _ _ _ => EchoBoard.among_acknowledge }
  activityEcho := Laws.ofBoard_serves Airtime.activityBoard _ (by simp [Airtime.activityBoard])
  report h r _ _ _ := by
    cases reported : h.report r with
    | error fault =>
      rw [HealthReports.fault_of_report reported]
      intro capacity
      simp
    | ok answer => trivial
  acknowledgeReport _ _ _ _ _ _ := trivial
  silence _ _ := trivial
  unaired := by simp
  full := by simp

/-- Where no more than three nodes ever stand at an indicator, however often they change places,
every echo of a command finds a slot. -/
theorem echo_finds_room (few : List NodeId) (calls : List Call) (built : build p d = .ok g)
    (roadside : ∀ n ∈ provisioned calls, ∀ i, n.position = AlertPanel.position p i → n.node ∈ few)
    (room : few.length ≤ 3) :
    ∀ earlier s later, calls = earlier ++ .stimulus s :: later → ∀ capacity,
      ((on s).after (g.served earlier)).1 ≠
        .error (.capacityExhausted "indicator echo slots" capacity) := by
  obtain ⟨-, cols, rows, rfl⟩ := build_eq_ok built
  have among : Airtime.indicatorBoard.Among few := ⟨List.nodup_nil, List.nil_subset _, room⟩
  refine spared (orderly_fresh p d {}) (Scope.covers_fresh _ p d {})
    (hold_fresh {} ⟨cols, rows⟩ trivial among (EchoBoard.serves_self (Nat.zero_le _)) trivial)
    (kept_nodeLaws few) ?_
  intro earlier s later split _
  exact ⟨fun _ _ _ _ => trivial, fun n asked => roadside n (mem_provisioned split asked),
    fun _ _ => trivial⟩

/-- Three nodes that stand at the indicators, one of which leaves and comes back. -/
def returning : List Call :=
  [stand 1 (-1) 1, stand 2 0 1, stand 3 1 1, .stimulus .second, stand 1 0 0, .stimulus .second,
    stand 1 (-1) 1]

theorem echo_finds_room_returning :
    ((fresh {} {} {}).served returning).air.indicatorEcho.slots.length = 3 ∧
    ∀ capacity, ((on .second).after ((fresh {} {} {}).served returning)).1 ≠
      .error (.capacityExhausted "indicator echo slots" capacity) :=
  ⟨by decide +kernel,
    echo_finds_room [1, 2, 3] (returning ++ [.stimulus .second]) build_default (by decide +kernel)
      (by decide) _ _ [] rfl⟩

/-- A node from inland takes the place of one of the three. -/
def relieved : List Call :=
  [stand 1 (-1) 1, stand 2 0 1, stand 3 1 1, stand 4 (-1) (-1), .stimulus .second, stand 1 0 0,
    stand 4 (-1) 1]

/-- Four nodes in all halt the gateway, though only three stand at the indicators at a time. -/
theorem echoes_run_out :
    (provisioned relieved).map Placement.node = [1, 2, 3, 4, 1, 4] ∧
    ((on .second).after ((fresh {} {} {}).served relieved)).1 =
      .error (.capacityExhausted "indicator echo slots" 3) := by
  decide +kernel

end Nodes

end WildlifeWarning.Gateway
