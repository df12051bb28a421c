import WildlifeWarning.Proofs.Air.HealthReports
import WildlifeWarning.Proofs.Air.SampleQueue
import WildlifeWarning.Proofs.Gateway.Orderly

/-! What the reporting side keeps, every stimulus of the gateway keeps.
The spatial model decides what is sent, never how it is queued. Who is reported on and who is
commanded follows from the placements: where these stay within a scope, so does all that is sent,
and the reporting side need not cope with more. -/

namespace WildlifeWarning.Gateway

open Step

/-- The sensors that may be reported on and the nodes that may be commanded. -/
structure Scope where
  sensors : SensorKey → Prop
  nodes : NodeId → Prop

namespace Scope

def all : Scope := ⟨fun _ => True, fun _ => True⟩

/-- The model knows no sensor and no roadside node out of scope. -/
structure Covers (w : Scope) (p : Parameters) (r : Registry) (h : SensorHealth) : Prop where
  carried : ∀ k ∈ r.sensors, w.sensors k
  recorded : ∀ k ∈ h.keys, w.sensors k
  silent : ∀ k ∈ h.silent, w.sensors k
  roadside : ∀ n ∈ r.nodes, ∀ i, n.position = AlertPanel.position p i → w.nodes n.node

structure Allows (w : Scope) (p : Parameters) (s : Stimulus) : Prop where
  carried : ∀ n, s.placement? = some n → ∀ k ∈ n.sensors, w.sensors k
  roadside : ∀ n, s.placement? = some n → ∀ i, n.position = AlertPanel.position p i →
    w.nodes n.node
  heard : ∀ event, s = .sensor event → w.sensors event.key

theorem all_covers (p : Parameters) (r : Registry) (h : SensorHealth) : all.Covers p r h :=
  ⟨fun _ _ => trivial, fun _ _ => trivial, fun _ _ => trivial, fun _ _ _ _ => trivial⟩

theorem all_allows (p : Parameters) (s : Stimulus) : all.Allows p s :=
  ⟨fun _ _ _ _ => trivial, fun _ _ _ _ => trivial, fun _ _ => trivial⟩

theorem covers_fresh (w : Scope) (p : Parameters) (d : Deployment) (alerts : AlertPanel) :
    w.Covers p (fresh p d alerts).registry (fresh p d alerts).health :=
  ⟨by simp [fresh, Registry.sensors], by simp [fresh, SensorHealth.keys], by simp [fresh],
    by simp [fresh]⟩

variable {w : Scope} {p : Parameters} {r : Registry} {h next : SensorHealth}

theorem Covers.sync (covers : w.Covers p r h) : w.Covers p r.unchanged (h.sync r).2 where
  carried := covers.carried
  recorded k member := by
    rw [SensorHealth.keys_sync] at member
    exact covers.recorded k (List.mem_filter.1 member).1
  silent k member := covers.silent k (List.mem_filter.1 member).1
  roadside := covers.roadside

theorem Covers.sync_changes (covers : w.Covers p r h) : ∀ c ∈ (h.sync r).1, w.sensors c.key :=
  fun _ member => (SensorHealth.mem_of_sync member).elim (covers.recorded _) (covers.silent _)

theorem Covers.flagged (covers : w.Covers p r h) : ∀ c ∈ h.flagged, w.sensors c.key :=
  fun _ member => (SensorHealth.mem_of_flagged member).elim (covers.recorded _) (covers.silent _)

theorem Covers.evaluateHyperactivity (covers : w.Covers p r h) :
    w.Covers p r (h.evaluateHyperactivity p).2 where
  carried := covers.carried
  recorded k member := by
    rw [(SensorHealth.sameSensors_evaluateHyperactivity p h).keys] at member
    exact covers.recorded k member
  silent := covers.silent
  roadside := covers.roadside

theorem Covers.evaluateInactivity (covers : w.Covers p r h) :
    w.Covers p r (h.evaluateInactivity r).2 where
  carried := covers.carried
  recorded := covers.recorded
  silent _ member := (SensorHealth.mem_silent_evaluateInactivity member).elim
    (covers.silent _) (covers.carried _)
  roadside := covers.roadside

theorem Covers.record {key : SensorKey} {minute : UInt32} {cleared : Option HealthChange}
    (covers : w.Covers p r h) (known : w.sensors key)
    (recorded : h.record p key minute = .ok (cleared, next)) : w.Covers p r next where
  carried := covers.carried
  recorded k member := by
    rcases SensorHealth.mem_keys_record recorded member with old | rfl
    · exact covers.recorded k old
    · exact known
  silent k member := covers.silent k ((SensorHealth.silent_record recorded).1 k member)
  roadside := covers.roadside

theorem Covers.accept {s : Stimulus} {n : Placement} {registry : Registry}
    (covers : w.Covers p r h) (allows : w.Allows p s) (asked : s.placement? = some n)
    (accepted : r.accept n = .ok registry) : w.Covers p registry h := by
  have nodes : ∀ m ∈ registry.nodes, m = n ∨ m ∈ r.nodes := by
    rw [Registry.accept_eq_ok accepted]
    exact fun m => Keyed.mem_of_mem_store Placement.node
  refine ⟨fun k member => ?_, covers.recorded, covers.silent, fun m member i here => ?_⟩
  · obtain ⟨m, member, carried⟩ := List.mem_flatMap.1 member
    rcases nodes m member with rfl | old
    · exact allows.carried m asked k carried
    · exact covers.carried k (List.mem_flatMap.2 ⟨m, old, carried⟩)
  · rcases nodes m member with rfl | old
    · exact allows.roadside m asked i here
    · exact covers.roadside m old i here

theorem Covers.commands {a : AlertPanel} {is : List IndicatorIndex} (covers : w.Covers p r h) :
    ∀ c ∈ is.filterMap (a.command? p r), w.nodes c.node := by
  intro c member
  obtain ⟨i, _, told⟩ := List.mem_filterMap.1 member
  obtain ⟨n, here, rfl⟩ := Option.map_eq_some_iff.1 told
  rw [IndicatorCommand.node_ofLevel]
  exact covers.roadside n (List.mem_of_find?_eq_some here) i (Registry.position_of_at? here)

end Scope

/-- Kept by all that the gateway asks of the reporting side within a scope, with `E` where that is
refused. -/
structure StableOnAir (w : Scope) (J : Airtime → Prop) (E : Fault → Airtime → Prop) : Prop where
  forward : ∀ report : Report, report.tag ∈ SampleQueue.tags → Keeps J E (Airtime.forward report)
  echoCommand : ∀ c : IndicatorCommand, w.nodes c.node → Keeps J E (Airtime.echoCommand c)
  echo : ∀ c value class_, Keeps J E (Airtime.echo c value class_)
  reportHealth : ∀ r : HealthReport, r.tag ∈ HealthReports.tags → w.sensors r.key →
    Keeps J E (Airtime.reportHealth r)
  acknowledge : ∀ a, Keeps J E (Airtime.acknowledge a)
  rotate : ∀ air, J air → J { air with carousel := air.carousel.rotate }

structure Stable (w : Scope) (J : Airtime → Prop) (E : Fault → Airtime → Prop) : Prop
    extends StableOnAir w J E where
  full : ∀ pool ∈ ["topology registry", "debounce records", "sensor activity records"],
    ∀ capacity air, J air → E (.capacityExhausted pool capacity) air

abbrev KeepsIn {α : Type} (w : Scope) (J : Airtime → Prop) (E : Fault → Airtime → Prop)
    (step : Step Gateway α) : Prop :=
  Keeps (fun g => w.Covers g.parameters g.registry g.health ∧ J g.air)
    (fun fault g => w.Covers g.parameters g.registry g.health ∧ E fault g.air) step

theorem tag_sample (event : SensorEvent) (state : SensorState) :
    (sample event state).tag ∈ SampleQueue.tags := by
  unfold sample
  split
  · exact List.mem_cons_of_mem _ List.mem_cons_self
  · exact List.mem_cons_self

theorem tag_condition (c : Condition) : c.tag ∈ HealthReports.tags := by
  cases c <;> decide

variable {w : Scope} {J : Airtime → Prop} {E : Fault → Airtime → Prop}

theorem keeps_onAir {α : Type} {step : Step Airtime α} (h : Keeps J E step) :
    KeepsIn w J E (onAir step) := fun g kept =>
  (ends_within _ _ _).2 ((h g.air kept.2).mono (fun _ _ after => ⟨kept.1, after⟩)
    fun _ _ refused => ⟨kept.1, refused⟩)

theorem keeps_announces (stable : StableOnAir w J E) {changes : List HealthChange}
    (known : ∀ c ∈ changes, w.sensors c.key) : KeepsIn w J E (changes.forM announce) :=
  Keeps.forM fun c member =>
    keeps_onAir (stable.reportHealth _ (tag_condition c.condition) (known c member))

theorem keeps_tells (stable : StableOnAir w J E) {commands : List IndicatorCommand}
    (known : ∀ c ∈ commands, w.nodes c.node) : KeepsIn w J E (commands.forM tell) :=
  Keeps.forM fun c member =>
    (keeps_onAir (stable.echoCommand c (known c member))).bind fun _ =>
      keeps_modify fun _ kept => kept

theorem keeps_echo (stable : StableOnAir w J E) (c : Cell) : KeepsIn w J E (echo c) := by
  intro g kept
  simp only [echo, ends_bind, ends_get]
  split
  · exact kept
  · refine (ends_bind _ _).2 ((ends_set _).2 ?_)
    exact keeps_onAir (stable.echo _ _ _) _ kept

theorem keeps_forget (stable : StableOnAir w J E) : KeepsIn w J E forget := by
  intro g ⟨covers, kept⟩
  simp only [forget, ends_bind, ends_get, ends_set]
  exact keeps_announces stable covers.sync_changes _ ⟨covers.sync, kept⟩

theorem keeps_realign (stable : StableOnAir w J E) : KeepsIn w J E realign := by
  intro g ⟨covers, kept⟩
  simp only [realign, ends_bind, ends_get, ends_set]
  exact keeps_tells stable covers.commands _ ⟨covers, kept⟩

theorem keeps_sync (stable : StableOnAir w J E) : KeepsIn w J E sync := by
  intro g kept
  simp only [sync, ends_bind, ends_get]
  split
  · exact (keeps_forget stable).bind (fun _ => keeps_realign stable) g kept
  · exact kept

theorem ends_place_in
    (full : ∀ capacity air, J air → E (.capacityExhausted "topology registry" capacity) air)
    {s : Stimulus} {n : Placement} {g : Gateway}
    (kept : w.Covers g.parameters g.registry g.health ∧ J g.air)
    (allows : w.Allows g.parameters s) (asked : s.placement? = some n) :
    (place n).Ends g (fun _ t => w.Covers t.parameters t.registry t.health ∧ J t.air)
      fun fault t => w.Covers t.parameters t.registry t.health ∧ E fault t.air := by
  simp only [place, ends_bind, ends_get]
  split
  · next registry accepted => exact ⟨kept.1.accept allows asked accepted, kept.2⟩
  · next fault refused =>
    split
    · next fatal =>
      rw [Registry.fault_of_accept refused fatal]
      exact ⟨kept.1, full _ _ kept.2⟩
    · exact kept

theorem keeps_detect (stable : Stable w J E) (event : SensorEvent) :
    KeepsIn w J E (detect event) := by
  intro g kept
  simp only [detect, ends_bind, ends_get, ends_set]
  split
  · exact kept
  · next fault refused =>
    split
    · next fatal =>
      rw [Detector.fault_of_sense refused fatal]
      exact ⟨kept.1, stable.full _ (by decide) _ _ kept.2⟩
    · exact kept

theorem keeps_note (stable : Stable w J E) {key : SensorKey} (known : w.sensors key) :
    KeepsIn w J E (note key) := by
  intro g ⟨covers, kept⟩
  simp only [note, ends_bind, ends_get]
  split
  · next fault refused =>
    rw [SensorHealth.fault_of_record refused]
    exact ⟨covers, stable.full _ (by decide) _ _ kept⟩
  · next cleared health recorded =>
    refine (ends_bind _ _).2 ((ends_set _).2 ?_)
    refine keeps_announces stable.toStableOnAir (fun c member => ?_) _
      ⟨covers.record known recorded, kept⟩
    exact covers.silent _ ((SensorHealth.silent_record recorded).2 c (Option.mem_toList.1 member))

theorem keeps_sense (stable : Stable w J E) {event : SensorEvent} (known : w.sensors event.key) :
    KeepsIn w J E (sense event) := by
  refine (keeps_sync stable.toStableOnAir).bind fun _ => ?_
  refine (keeps_detect stable event).bind fun detection => ?_
  cases detection with
  | none => exact keeps_pure ()
  | some detection =>
    refine (keeps_note stable known).bind fun _ => ?_
    refine (keeps_onAir (stable.forward _ (tag_sample _ _))).bind fun _ => ?_
    exact Keeps.forM fun c _ => keeps_echo stable.toStableOnAir c

theorem keeps_closeMinute (stable : StableOnAir w J E) : KeepsIn w J E closeMinute := by
  intro g ⟨covers, kept⟩
  simp only [closeMinute, ends_bind, ends_get, ends_set]
  refine keeps_announces stable (fun c member => ?_) _ ⟨covers.evaluateHyperactivity, kept⟩
  exact covers.recorded _ (SensorHealth.mem_of_evaluateHyperactivity member)

theorem keeps_closeHour (stable : StableOnAir w J E) : KeepsIn w J E closeHour := by
  intro g ⟨covers, kept⟩
  simp only [closeHour, ends_bind, ends_get]
  exact keeps_announces stable covers.flagged _ ⟨covers, kept⟩

theorem keeps_closeDay (stable : StableOnAir w J E) : KeepsIn w J E closeDay := by
  intro g ⟨covers, kept⟩
  simp only [closeDay, ends_bind, ends_get, ends_set]
  refine keeps_announces stable (fun c member => ?_) _ ⟨covers.evaluateInactivity, kept⟩
  exact covers.carried _ (SensorHealth.mem_of_evaluateInactivity member)

theorem keeps_advance (stable : StableOnAir w J E) : KeepsIn w J E advance := by
  intro g ⟨covers, kept⟩
  simp only [advance, ends_bind, ends_get, ends_set]
  refine keeps_tells stable (fun c member => ?_) _ ⟨covers, kept⟩
  simp only [AlertPanel.tick, AlertPanel.advance] at member
  split at member <;> exact covers.commands c member

theorem keeps_closeIf {period : Step Gateway Unit} (ended : Bool)
    (h : KeepsIn w J E period) : KeepsIn w J E (closeIf ended period) := by
  unfold closeIf
  split
  · exact h
  · exact keeps_pure ()

theorem keeps_close (stable : StableOnAir w J E) (ticks : Ticks) : KeepsIn w J E (close ticks) := by
  refine (keeps_closeIf _ (keeps_closeMinute stable)).bind fun _ => ?_
  refine (keeps_closeIf _ (keeps_closeHour stable)).bind fun _ => ?_
  exact keeps_closeIf _ (keeps_closeDay stable)

theorem keeps_passSecond (stable : StableOnAir w J E) : KeepsIn w J E passSecond := by
  refine (keeps_sync stable).bind fun _ => (keeps_advance stable).bind fun _ g kept => ?_
  simp only [ends_bind, ends_modify, ends_get]
  refine Ends.mono (Keeps.forM (fun c _ => keeps_echo stable c) _ kept) ?_ fun _ _ h => h
  intro _ g kept
  exact keeps_close stable _ _ kept

theorem ends_on_unless_sensed (stable : StableOnAir w J E)
    (full : ∀ capacity air, J air → E (.capacityExhausted "topology registry" capacity) air)
    {s : Stimulus} {g : Gateway} (kept : w.Covers g.parameters g.registry g.health ∧ J g.air)
    (allows : w.Allows g.parameters s)
    (heard : ∀ event, s = .sensor event →
      (sense event).Ends g (fun _ t => w.Covers t.parameters t.registry t.health ∧ J t.air)
        fun fault t => w.Covers t.parameters t.registry t.health ∧ E fault t.air) :
    (on s).Ends g (fun _ t => w.Covers t.parameters t.registry t.health ∧ J t.air)
      fun fault t => w.Covers t.parameters t.registry t.health ∧ E fault t.air := by
  cases s with
  | sensor event => exact heard event rfl
  | placement n => exact ends_place_in full kept allows rfl
  | placementPage payload =>
    change (placePage payload).Ends _ _ _
    unfold placePage
    split
    · next n readable =>
      refine ends_place_in full kept allows ?_
      rw [Stimulus.placement?, readable]
      rfl
    · exact kept
  | acknowledgement a => exact keeps_onAir (stable.acknowledge a) g kept
  | second => exact keeps_passSecond stable g kept
  | minute => exact keeps_closeMinute stable g kept
  | hour => exact keeps_closeHour stable g kept
  | day => exact keeps_closeDay stable g kept
  | pagePeriod => exact ⟨kept.1, stable.rotate g.air kept.2⟩

theorem ends_on_in (stable : Stable w J E) {s : Stimulus} {g : Gateway}
    (kept : w.Covers g.parameters g.registry g.health ∧ J g.air)
    (allows : w.Allows g.parameters s) :
    (on s).Ends g (fun _ t => w.Covers t.parameters t.registry t.health ∧ J t.air)
      fun fault t => w.Covers t.parameters t.registry t.health ∧ E fault t.air := by
  refine ends_on_unless_sensed stable.toStableOnAir (stable.full _ (by decide)) kept allows ?_
  rintro event rfl
  exact keeps_sense stable (allows.heard event rfl) g kept

/-- In a run whose stimuli are within the scope, each where it comes, nothing out of scope comes
up. -/
theorem within_served (stable : Stable w J E) (refused : ∀ fault air, E fault air → J air)
    {p : Parameters} {g : Gateway} (orderly : g.Orderly p)
    (covers : w.Covers p g.registry g.health) (start : J g.air) {calls : List Call}
    (allowed : ∀ earlier s later, calls = earlier ++ .stimulus s :: later →
      w.Covers p (g.served earlier).registry (g.served earlier).health → w.Allows p s)
    (earlier later : List Call) (split : calls = earlier ++ later) :
    (g.served earlier).Orderly p ∧
      w.Covers p (g.served earlier).registry (g.served earlier).health ∧
      J (g.served earlier).air := by
  refine served_induction
    (I := fun t => t.Orderly p ∧ w.Covers p t.registry t.health ∧ J t.air)
    ⟨orderly, covers, start⟩ ?_ earlier later split
  rintro earlier c later split ⟨orderly, covers, kept⟩
  cases c with
  | drain => exact ⟨orderly_drain orderly, covers, kept⟩
  | stimulus s =>
    have parameters := orderly.parameters
    have next := orderly_on orderly s
    have within := ends_on_in stable (g := g.served earlier) ⟨parameters ▸ covers, kept⟩
      (parameters ▸ allowed earlier s later split covers)
    have after := (within.mono (fun _ _ h => h) fun fault _ h => ⟨h.1, refused fault _ h.2⟩).after
    rw [next.parameters] at after
    exact ⟨next, after⟩

abbrev KeepsAir {α : Type} (J : Airtime → Prop) (E : Fault → Airtime → Prop)
    (step : Step Gateway α) : Prop :=
  Keeps (fun g => J g.air) (fun fault g => E fault g.air) step

theorem KeepsIn.air {α : Type} {step : Step Gateway α} (h : KeepsIn .all J E step) :
    KeepsAir J E step := fun g kept =>
  (h g ⟨Scope.all_covers _ _ _, kept⟩).mono (fun _ _ h => h.2) fun _ _ h => h.2

theorem keeps_on (stable : Stable .all J E) (s : Stimulus) : KeepsAir J E (on s) := fun _ kept =>
  (ends_on_in stable ⟨Scope.all_covers _ _ _, kept⟩ (Scope.all_allows _ s)).mono
    (fun _ _ h => h.2) fun _ _ h => h.2

theorem kept_served (stable : Stable .all J E) (refused : ∀ fault air, E fault air → J air)
    {g : Gateway} (start : J g.air) (calls : List Call) : J (g.served calls).air := by
  refine served_induction (I := fun t => J t.air) start ?_ calls [] (List.append_nil calls).symm
  intro earlier c later _ kept
  cases c with
  | stimulus s => exact (keeps_on stable s).after (fun fault _ h => refused fault _ h) kept
  | drain => exact kept

end WildlifeWarning.Gateway
