import WildlifeWarning.Proofs.Gateway.Orderly

/-! What the debounce records remember while the placements stay.
The record of a sensor holds the last report that was not suppressed. Reports made while the sensor
was flagged as hyperactive are forwarded only: the record does not see them, and neither does the
trickle after the flag is cleared. -/

namespace WildlifeWarning

structure Heard where
  key : SensorKey
  state : SensorState
  suppressed : Bool
  deriving DecidableEq

def lastUnsuppressed (reports : List Heard) (k : SensorKey) : Option Heard :=
  (reports.filter fun h => h.key == k && !h.suppressed).getLast?

theorem lastUnsuppressed_append (first rest : List Heard) (k : SensorKey) :
    lastUnsuppressed (first ++ rest) k =
      (lastUnsuppressed rest k).or (lastUnsuppressed first k) := by
  rw [lastUnsuppressed, List.filter_append, List.getLast?_append]
  rfl

theorem lastUnsuppressed_toList (report : Option Heard) (k : SensorKey) :
    lastUnsuppressed report.toList k = report.filter fun h => h.key == k && !h.suppressed := by
  cases report with
  | none => rfl
  | some h => by_cases counts : (h.key == k && !h.suppressed) = true <;>
      simp [lastUnsuppressed, Option.filter, counts]

namespace Gateway

open Step

def heard? (g : Gateway) : Stimulus → Option Heard
  | .sensor event =>
    match sync.after g with
    | (.ok (), g) =>
      match (g.sensed event).1 with
      | .ok detection => some ⟨event.key, detection.state, g.health.isHyperactive event.key⟩
      | .error _ => none
    | (.error _, _) => none
  | _ => none

def reports (g : Gateway) : List Stimulus → List Heard
  | [] => []
  | s :: rest => (g.heard? s).toList ++ ((on s).after g).2.reports rest

/-- The placements stay: none that comes in is stored. -/
def Still (g : Gateway) : List Stimulus → Prop
  | [] => True
  | s :: rest =>
    (∀ p, s.placement? = some p → ∀ registry, g.registry.accept p ≠ .ok registry) ∧
      ((on s).after g).2.Still rest

variable {p : Parameters} {g t : Gateway} {event : SensorEvent}

/-- The record of a sensor holds a state, entered as its node stands now. -/
def OnRecord (g : Gateway) (k : SensorKey) (state : SensorState) : Prop :=
  ∃ record node, g.detector.find? k = some record ∧ record.state = state ∧
    g.registry.find? k.node = some node ∧ record.placedAs node

/-- A sensor's state is on record. Where `lossy` holds, the record of a sensor that no node carries
may have gone. -/
def Remembers (lossy : Prop) (g : Gateway) (k : SensorKey) (state : SensorState) : Prop :=
  g.OnRecord k state ∨ (lossy ∧ g.detector.find? k = none ∧ k ∉ g.registry.sensors)

variable {lossy : Prop} {k : SensorKey} {state : SensorState}

theorem Remembers.congr (remembers : g.Remembers lossy k state)
    (detector : t.detector.find? k = g.detector.find? k) (registry : t.registry = g.registry) :
    t.Remembers lossy k state := by
  unfold Remembers OnRecord
  rw [detector, registry]
  exact remembers

theorem Remembers.makeRoom (remembers : g.Remembers lossy k state) (distinct : g.registry.Distinct)
    (registry : t.registry = g.registry)
    (base : t.detector.find? k = (g.detector.makeRoom g.registry).find? k)
    (intact : ¬lossy → t.detector.find? k = g.detector.find? k) : t.Remembers lossy k state := by
  by_cases kept : lossy
  · unfold Detector.makeRoom at base
    split at base
    · rw [Detector.find?_sync] at base
      rcases remembers with ⟨record, node, found, same, standing, placed⟩ | ⟨-, gone, uncarried⟩
      · rw [found, Option.bind_some] at base
        -- A record entered as its node stands now is settled as it is.
        cases carried : g.registry.carrier? k with
        | none =>
          rw [carried] at base
          refine .inr ⟨kept, base, ?_⟩
          rw [registry, ← Registry.isSome_carrier?_iff distinct, carried]
          simp
        | some carrier =>
          obtain rfl : carrier = node :=
            Option.some.inj ((Registry.carrier?_eq_some.1 carried).1.symm.trans standing)
          have settled : record.settle carrier = record := if_pos placed
          rw [carried, Option.map_some, settled] at base
          exact .inl ⟨record, carrier, base, same, registry ▸ standing, placed⟩
      · rw [gone] at base
        exact .inr ⟨kept, base, registry ▸ uncarried⟩
    · exact remembers.congr base registry
  · exact remembers.congr (intact kept) registry

theorem heard?_of_sensed {detection : Detection} (synced : (sync.after g).1 = .ok ())
    (ok : (g.synced.sensed event).1 = .ok detection) :
    g.heard? (.sensor event) =
      some ⟨event.key, detection.state, g.synced.health.isHyperactive event.key⟩ := by
  obtain ⟨air, after⟩ := (ends_sync g).of_ok synced
  have result : sync.after g = (.ok (), { g.synced with air }) := Prod.ext synced after
  have sensed : ({ g.synced with air }.sensed event).1 = .ok detection := ok
  simp only [heard?, result, sensed]

theorem sensed_of_heard? {s : Stimulus} {h : Heard} (heard : g.heard? s = some h) :
    ∃ event detection, s = .sensor event ∧ (sync.after g).1 = .ok () ∧
      (g.synced.sensed event).1 = .ok detection ∧
      h = ⟨event.key, detection.state, g.synced.health.isHyperactive event.key⟩ := by
  cases s with
  | sensor event =>
    cases synced : (sync.after g).1 with
    | error fault =>
      have result : sync.after g = (.error fault, (sync.after g).2) := Prod.ext synced rfl
      rw [heard?, result] at heard
      contradiction
    | ok =>
      cases result : (g.synced.sensed event).1 with
      | error fault =>
        obtain ⟨air, after⟩ := (ends_sync g).of_ok synced
        have sensed : ({ g.synced with air }.sensed event).1 = .error fault := result
        have ended : sync.after g = (.ok (), { g.synced with air }) := Prod.ext synced after
        simp only [heard?, ended, sensed] at heard
        contradiction
      | ok detection =>
        rw [heard?_of_sensed synced result] at heard
        exact ⟨event, detection, rfl, rfl, result, (Option.some.inj heard).symm⟩
  | _ => contradiction

theorem onRecord_of_heard {through : Bool} {s : Stimulus} {h : Heard} (orderly : g.Orderly p)
    (heard : g.heard? s = some h) (loud : h.suppressed = false) (effect : Effect g through s t) :
    t.OnRecord h.key h.state ∧ t.registry.changed = false := by
  obtain ⟨event, detection, rfl, synced, ok, rfl⟩ := sensed_of_heard? heard
  cases effect with
  | quiet health minute air same no_event => exact absurd rfl (no_event event)
  | placed placement asked => contradiction
  | stopped alerts outbox air refused unsynced =>
    exact absurd (synced.symm.trans unsynced) (by simp)
  | sensed event echoed air =>
    obtain ⟨health, -, taken⟩ := taken_eq g.synced event
    obtain ⟨base, -, -, records⟩ := detector_sensed (orderly_synced orderly) event
    cases records with
    | refused error => exact absurd (ok.symm.trans error) (by simp)
    | suppressed flagged => exact absurd (flagged.symm.trans loud) (by simp)
    | @stored _ node record _ ok' standing put key state placed =>
      obtain rfl := Except.ok.inj (ok.symm.trans ok')
      rw [taken]
      refine ⟨⟨record, node, ?_, state, standing, placed⟩, changed_synced g⟩
      change (g.synced.sensed event).2.1.find? event.key = some record
      rw [put, ← key, Detector.find?_put_self]

theorem remembers_of_effect {through : Bool} {s : Stimulus} (orderly : g.Orderly p)
    (settled : g.registry.changed = false)
    (still : ∀ p, s.placement? = some p → ∀ registry, g.registry.accept p ≠ .ok registry)
    (silent : ∀ h, g.heard? s = some h → h.key = k → h.suppressed)
    (intact : ¬lossy → g.Paired ∧ through) (remembers : g.Remembers lossy k state)
    (effect : Effect g through s t) :
    t.Remembers lossy k state ∧ t.registry.changed = false := by
  have here := synced_of_settled settled
  cases effect with
  | quiet => exact ⟨remembers, settled⟩
  | placed placement asked accepted => exact absurd accepted (still placement asked _)
  | stopped =>
    rw [here]
    exact ⟨remembers, settled⟩
  | second =>
    rw [here]
    exact ⟨remembers, settled⟩
  | sensed event echoed air synced admitted =>
    obtain ⟨health, -, taken⟩ := taken_eq g.synced event
    have report : ∀ detection, (g.synced.sensed event).1 = .ok detection → _ := fun _ =>
      heard?_of_sensed synced
    rw [here] at taken report admitted
    rw [here, taken]
    refine ⟨?_, settled⟩
    obtain ⟨base, from_, same, records⟩ := detector_sensed orderly event
    have found : (g.sensed event).2.1.find? k = base.find? k := by
      cases records with
      | refused error kept => rw [kept]
      | suppressed flagged kept => rw [kept]
      | stored loud ok standing put key =>
        rw [put]
        refine Detector.find?_put_of_ne base fun own => ?_
        have suppressed := silent _ (report _ ok) (key.symm.trans own)
        rw [loud] at suppressed
        contradiction
    rcases from_ with rfl | rfl
    · exact remembers.congr found rfl
    · refine remembers.makeRoom orderly.distinct rfl found fun kept => ?_
      obtain ⟨paired, went⟩ := intact kept
      exact found.trans (by rw [same paired (admitted went)])

theorem remembers_after {stimuli : List Stimulus} (orderly : g.Orderly p)
    (still : g.Still stimuli) (intact : ¬lossy → g.Intact stimuli)
    (settled : g.registry.changed = false) (remembers : g.Remembers lossy k state)
    (silent : lastUnsuppressed (g.reports stimuli) k = none) :
    (g.after stimuli).Remembers lossy k state ∧ (g.after stimuli).registry.changed = false := by
  induction stimuli generalizing g with
  | nil => exact ⟨remembers, settled⟩
  | cons s rest ih =>
    obtain ⟨through, went, effect⟩ := effect_after g s
    rw [reports, lastUnsuppressed_append, Option.or_eq_none_iff, lastUnsuppressed_toList,
      Option.filter_eq_none_iff] at silent
    obtain ⟨kept, settled⟩ := remembers_of_effect orderly settled still.1
      (fun h heard own => by simpa [own] using silent.2 h heard)
      (fun kept => ⟨(intact kept).1, went.2 (accepts_cons.1 (intact kept).2).1⟩) remembers effect
    exact ih (orderly_of_effect orderly effect) still.2 (fun whole => (intact whole).next orderly)
      settled kept silent.1

theorem remembers_last {stimuli : List Stimulus} {h : Heard} (orderly : g.Orderly p)
    (still : g.Still stimuli) (intact : ¬lossy → g.Intact stimuli)
    (last : lastUnsuppressed (g.reports stimuli) k = some h) :
    (g.after stimuli).Remembers lossy k h.state ∧ (g.after stimuli).registry.changed = false := by
  induction stimuli generalizing g with
  | nil => contradiction
  | cons s rest ih =>
    obtain ⟨through, -, effect⟩ := effect_after g s
    have later := fun kept => (intact kept).next orderly
    have next := orderly_of_effect orderly effect
    rw [reports, lastUnsuppressed_append] at last
    cases further : lastUnsuppressed (((on s).after g).2.reports rest) k with
    | some h' =>
      rw [further] at last
      obtain rfl := Option.some.inj last
      exact ih next still.2 later further
    | none =>
      -- No report counts after this one, which is put on record and stays there.
      rw [further, Option.none_or, lastUnsuppressed_toList, Option.filter_eq_some_iff] at last
      obtain ⟨heard, counts⟩ := last
      obtain ⟨own, loud⟩ : h.key = k ∧ h.suppressed = false := by simpa using counts
      obtain ⟨recorded, settled⟩ := onRecord_of_heard orderly heard loud effect
      rw [after_cons]
      exact remembers_after next still.2 later settled (.inl (own ▸ recorded)) further

theorem inactive_of_starts {node : Placement} {base : Detector} {record : SensorRecord}
    (remembers : g.Remembers lossy k state) (ended : state.isActive = false)
    (starts : Detector.Starts g.registry g.detector k node base record) :
    record.state.isActive = false := by
  cases starts with
  | known found =>
    rcases remembers with ⟨old, _, found', same, -, -⟩ | ⟨-, gone, -⟩
    · obtain rfl := Option.some.inj (found.symm.trans found')
      unfold SensorRecord.settle
      split
      · rw [same, ended]
      · exact SensorState.isActive_idle _
    · exact absurd (found.symm.trans gone) (by simp)
  | new => exact SensorState.isActive_idle _

theorem grid_of_sensed {through : Bool} (settled : g.registry.changed = false)
    (synced : (sync.after g).1 = .ok ()) (effect : Effect g through (.sensor event) t) :
    t.grid = (g.sensed event).2.2 := by
  cases effect with
  | quiet health minute air same no_event => exact absurd rfl (no_event event)
  | placed placement asked => contradiction
  | stopped alerts outbox air refused unsynced =>
    exact absurd (synced.symm.trans unsynced) (by simp)
  | sensed =>
    obtain ⟨health, -, taken⟩ := taken_eq g.synced event
    rw [taken, synced_of_settled settled]
    rfl

theorem grows_after_end (remembers : g.Remembers lossy k state) (ended : state.isActive = false)
    (settled : g.registry.changed = false) (own : event.key = k) {h : Heard}
    (heard : g.heard? (.sensor event) = some h) (loud : h.suppressed = false)
    (active : h.state.isActive) :
    ∃ node facing, g.registry.find? k.node = some node ∧
      (k.rotation + node.rotation).facing? = some facing ∧
      ((on (.sensor event)).after g).2.grid = Detector.growAll g.parameters
        (g.parameters.growth k.kind) g.grid
        (g.parameters.grid.ahead (h.state.origin node.position facing) facing) := by
  subst own
  obtain ⟨_, detection, same, synced, ok, rfl⟩ := sensed_of_heard? heard
  obtain rfl := Stimulus.sensor.inj same
  rw [synced_of_settled settled] at ok loud
  have loud : g.health.isHyperactive event.key = false := loud
  have quiet : g.sensed event =
      Detector.sense g.parameters g.registry false g.detector g.grid event := by rw [sensed, loud]
  rw [quiet] at ok
  obtain ⟨node, facing, standing, looking, grown⟩ := Detector.sense_grows ok active fun _ _ _ =>
    inactive_of_starts remembers ended
  obtain ⟨through, -, effect⟩ := effect_after g (.sensor event)
  refine ⟨node, facing, standing, looking, ?_⟩
  rw [grid_of_sensed settled synced effect, quiet, grown]

theorem lastingCells_after_end (orderly : g.Orderly p) (remembers : g.Remembers lossy k state)
    (ended : state.isActive = false) {record : SensorRecord}
    (member : record ∈ g.detector.records) (own : record.key = k) (p : Parameters) (r : Registry)
    (suppressed : SensorKey → Bool) : Detector.lastingCells p r suppressed record = [] := by
  have found : g.detector.find? k = some record :=
    own ▸ Keyed.find?_of_mem SensorRecord.key orderly.keys member
  rcases remembers with ⟨other, _, found', same, -⟩ | ⟨-, gone, -⟩
  · obtain rfl := Option.some.inj (found.symm.trans found')
    exact Detector.lastingCells_of_inactive p r suppressed (same ▸ ended)
  · exact absurd (found.symm.trans gone) (by simp)

/-- The records do justice to a sensor whose last report was `state`: its record holds that state.
If the state is an end, then the next detection that is not suppressed grows all the cells ahead,
and none is reinforced before it. -/
structure Debounced (lossy : Prop) (g : Gateway) (k : SensorKey) (state : SensorState) : Prop where
  recorded : g.detector.state? k = some state ∨
    (lossy ∧ g.detector.state? k = none ∧ k ∉ g.registry.sensors)
  grows : state.isActive = false → ∀ event h, event.key = k → g.heard? (.sensor event) = some h →
    h.suppressed = false → h.state.isActive → ∃ node facing, g.registry.find? k.node = some node ∧
      (k.rotation + node.rotation).facing? = some facing ∧
      ((on (.sensor event)).after g).2.grid = Detector.growAll g.parameters
        (g.parameters.growth k.kind) g.grid
        (g.parameters.grid.ahead (h.state.origin node.position facing) facing)
  rests : state.isActive = false → ∀ record ∈ g.detector.records, record.key = k →
    Detector.lastingCells g.parameters g.registry g.health.isHyperactive record = []

theorem debounced_of_remembers (orderly : g.Orderly p) (remembers : g.Remembers lossy k state)
    (settled : g.registry.changed = false) : g.Debounced lossy k state where
  recorded := by
    rcases remembers with ⟨record, _, found, same, -⟩ | ⟨lost, gone, uncarried⟩
    · exact .inl (by rw [Detector.state?, found, Option.map_some, same])
    · exact .inr ⟨lost, by rw [Detector.state?, gone, Option.map_none], uncarried⟩
  grows ended _ _ own heard loud active :=
    grows_after_end remembers ended settled own heard loud active
  rests ended _ member own := lastingCells_after_end orderly remembers ended member own _ _ _

/-- Of a run in which the placements stay: the record of a sensor holds its last report that was
made while it was not flagged. Only where a call was refused may the record of a sensor that no node
carries be gone. -/
theorem record_is_last_unsuppressed {d : Deployment} (built : build p d = .ok g)
    (before stimuli : List Stimulus) (still : (g.after before).Still stimuli) {h : Heard}
    (last : lastUnsuppressed ((g.after before).reports stimuli) k = some h) :
    ((g.after before).after stimuli).Debounced (¬g.accepts (before ++ stimuli)) k h.state := by
  obtain ⟨-, -, -, rfl⟩ := build_eq_ok built
  have orderly := orderly_after (orderly_fresh p d {}) before
  have intact (whole : ¬¬(fresh p d {}).accepts (before ++ stimuli)) :
      ((fresh p d {}).after before).Intact stimuli :=
    Intact.after (orderly_fresh p d {}) ⟨rfl, Decidable.not_not.1 whole⟩
  obtain ⟨remembers, settled⟩ := remembers_last orderly still intact last
  exact debounced_of_remembers (orderly_after orderly stimuli) remembers settled

theorem record_is_last_unsuppressed_ended :
    build {} {} = .ok (fresh {} {} {}) ∧
      ((fresh {} {} {}).after [watch]).Still [motion true, motion false] ∧
      lastUnsuppressed (((fresh {} {} {}).after [watch]).reports [motion true, motion false])
        ⟨1, 0, .motion⟩ = some ⟨⟨1, 0, .motion⟩, .motion false, false⟩ ∧
      (((fresh {} {} {}).after [watch]).after [motion true, motion false]).Debounced
        (¬(fresh {} {} {}).accepts ([watch] ++ [motion true, motion false])) ⟨1, 0, .motion⟩
        (.motion false) := by
  have still : ((fresh {} {} {}).after [watch]).Still [motion true, motion false] := by
    simp [Still, motion, Stimulus.placement?]
  have last : lastUnsuppressed
      (((fresh {} {} {}).after [watch]).reports [motion true, motion false]) ⟨1, 0, .motion⟩ =
        some ⟨⟨1, 0, .motion⟩, .motion false, false⟩ := by decide +kernel
  exact ⟨build_default, still, last,
    record_is_last_unsuppressed build_default [watch] [motion true, motion false] still last⟩

/-- With room for one sensor only, the record of one that no node carries goes for the next, which
the health records refuse. -/
theorem record_gone_after_refusal :
    let g := (fresh {} { sensorCapacity := 1 } {}).after [watch]
    let stimuli := [.sensor ⟨1, 2, .motion true⟩, motion true]
    lastUnsuppressed (g.reports stimuli) ⟨1, 2, .motion⟩ =
        some ⟨⟨1, 2, .motion⟩, .motion true, false⟩ ∧
      (g.after stimuli).detector.state? ⟨1, 2, .motion⟩ = none := by decide +kernel

/-- The sensor is flagged in the first minute and reports the end before the flag is cleared. -/
def lapse : List Stimulus :=
  [motion true, motion true, .minute, motion false, .minute, .minute, motion false, .minute]

/-- The last report of all need not be the one on record: an end that was reported while the sensor
was flagged is not, and the detection stays when the flag is cleared. -/
theorem not_record_of_last_report :
    ¬∀ (p : Parameters) (d : Deployment) (g : Gateway) (before stimuli : List Stimulus),
      build p d = .ok g → (g.after before).Still stimuli → g.accepts (before ++ stimuli) →
      ∀ k h, (((g.after before).reports stimuli).filter fun h => h.key == k).getLast? = some h →
        ((g.after before).after stimuli).health.isHyperactive k = false →
        (((g.after before).after stimuli).detector.state? k).any SensorState.isActive =
          h.state.isActive := by
  intro claim
  let p : Parameters := { hyperactivityWindow := 2, decayFactor := 1 }
  let g := fresh p {} {}
  have built : build p {} = .ok g := by
    rw [build, Parameters.validate_eq_ok_iff.2 (by decide +kernel)]
    rfl
  have still : (g.after [watch]).Still lapse := by
    simp [Still, lapse, motion, Stimulus.placement?]
  have goes : g.accepts ([watch] ++ lapse) = true := by decide +kernel
  have ended :
      (((g.after [watch]).reports lapse).filter fun h => h.key == ⟨1, 0, .motion⟩).getLast? =
        some ⟨⟨1, 0, .motion⟩, .motion false, true⟩ := by decide +kernel
  have cleared : ((g.after [watch]).after lapse).health.isHyperactive ⟨1, 0, .motion⟩ = false := by
    decide +kernel
  have lasts : (((g.after [watch]).after lapse).detector.state? ⟨1, 0, .motion⟩).any
      SensorState.isActive = true := by decide +kernel
  have stops := claim p {} g [watch] lapse built still goes _ _ ended cleared
  rw [lasts] at stops
  exact absurd stops (by decide)

end Gateway

end WildlifeWarning
