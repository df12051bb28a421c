import WildlifeWarning.Proofs.Gateway.Run
import WildlifeWarning.Proofs.Outcome
import WildlifeWarning.Proofs.SensorHealth

/-! What each step of the gateway changes, apart from the air, whether it goes through or not.
The model's own changes are pure functions of the gateway; a refused step stops between two of
them. -/

namespace WildlifeWarning

namespace Gateway

open Step

def settled (g : Gateway) : Gateway :=
  { g with
    registry := g.registry.unchanged
    detector := g.detector.sync g.registry
    health := (g.health.sync g.registry).2 }

def realigned (g : Gateway) : Gateway :=
  let (alerts, commands) := g.alerts.resync g.parameters g.grid g.registry
  { g with alerts, outbox := g.outbox ++ commands }

def synced (g : Gateway) : Gateway := if g.registry.changed then g.settled.realigned else g

def aged (g : Gateway) : ActivityGrid :=
  g.detector.trickle g.parameters g.registry g.health.isHyperactive
    (g.grid.decay g.parameters g.parameters.decayFactor)

def stored (g : Gateway) (p : Placement) : Gateway :=
  match g.registry.accept p with
  | .ok registry => { g with registry }
  | .error _ => g

def advanced (g : Gateway) : Gateway :=
  let (alerts, commands) := g.alerts.tick g.parameters g.aged g.registry
  { g with grid := g.aged, alerts, outbox := g.outbox ++ commands }

def sensed (g : Gateway) (event : SensorEvent) :
    Except Fault Detection × Detector × ActivityGrid :=
  Detector.sense g.parameters g.registry (g.health.isHyperactive event.key) g.detector g.grid event

def detected (g : Gateway) (event : SensorEvent) : Gateway :=
  { g with detector := (g.sensed event).2.1, grid := (g.sensed event).2.2 }

def noted (g : Gateway) (key : SensorKey) : Gateway :=
  match g.health.record g.parameters key g.minute with
  | .ok (_, health) => { g with health }
  | .error _ => g

/-- The event is dropped or noted, and not refused. -/
def Admits (g : Gateway) (event : SensorEvent) : Prop :=
  (∀ fault, (g.sensed event).1 = .error fault → fault.isFatal = false) ∧
  ∀ detection, (g.sensed event).1 = .ok detection → ∃ result,
    g.health.record g.parameters event.key g.minute = .ok result

def taken (g : Gateway) (event : SensorEvent) : Gateway :=
  match (g.sensed event).1 with
  | .ok _ => (g.detected event).noted event.key
  | .error _ => g.detected event

def minuteClosed (g : Gateway) : Gateway :=
  { g with minute := g.minute + 1, health := (g.health.evaluateHyperactivity g.parameters).2 }

def dayClosed (g : Gateway) : Gateway :=
  { g with health := (g.health.evaluateInactivity g.registry).2 }

def closed (g : Gateway) (ticks : Ticks) : Gateway :=
  let g := if ticks.minute then g.minuteClosed else g
  if ticks.day then g.dayClosed else g

def ticked (g : Gateway) : Gateway := { g with clock := g.clock.advance }

def echoing (g : Gateway) (cells : List Cell) : Gateway :=
  let note (echoed : List Classification) (c : Cell) : List Classification :=
    match g.grid.value? g.parameters c with
    | none => echoed
    | some _ => echoed.set (g.parameters.grid.index c) (g.grid.classify g.parameters c)
  { g with echoed := cells.foldl note g.echoed }

def heard (g : Gateway) (event : SensorEvent) : Gateway :=
  match (g.sensed event).1 with
  | .ok detection => (g.taken event).echoing detection.grown
  | .error _ => g.taken event

/-- The second is over, and the periods that it ends are not closed yet. -/
def turned (g : Gateway) : Gateway :=
  (g.synced.advanced.echoing g.synced.advanced.reclassified).ticked

def passed (g : Gateway) : Gateway := g.turned.closed g.turned.clock.ticks

variable (g : Gateway)

theorem closed_eq (ticks : Ticks) :
    ∃ minute health, g.health.SameSensors health ∧ g.closed ticks = { g with minute, health } := by
  have hyperactivity :=
    SensorHealth.sameSensors_evaluateHyperactivity g.parameters g.health
  simp only [closed]
  split
  · split
    · exact ⟨_, g.minuteClosed.dayClosed.health, ⟨hyperactivity.capacity, hyperactivity.keys⟩, rfl⟩
    · exact ⟨_, g.dayClosed.health, SensorHealth.sameSensors_evaluateInactivity _ _, rfl⟩
  · split
    · exact ⟨_, g.minuteClosed.health, hyperactivity, rfl⟩
    · exact ⟨_, g.health, .refl g.health, rfl⟩

theorem taken_eq (event : SensorEvent) :
    ∃ health, health.capacity = g.health.capacity ∧
      g.taken event = { g.detected event with health } := by
  simp only [taken, noted]
  split
  · split
    · next recorded => exact ⟨_, (SensorHealth.record_eq_ok recorded).1, rfl⟩
    · exact ⟨_, rfl, rfl⟩
  · exact ⟨_, rfl, rfl⟩

theorem heard_eq (event : SensorEvent) :
    ∃ echoed, g.heard event = { g.taken event with echoed } := by
  simp only [heard]
  split
  · exact ⟨_, rfl⟩
  · exact ⟨_, rfl⟩

theorem ends_onAir {α : Type} (step : Step Airtime α) :
    (onAir step).Ends g (fun _ t => ∃ air, t = { g with air })
      fun _ t => ∃ air, t = { g with air } := by
  refine (ends_within _ _ _).2 (ends_iff.2 ⟨fun _ _ => ⟨_, rfl⟩, fun _ _ => ⟨_, rfl⟩⟩)

theorem ends_announces (changes : List HealthChange) :
    (changes.forM announce).Ends g (fun _ t => ∃ air, t = { g with air })
      fun _ t => ∃ air, t = { g with air } := by
  refine Ends.forM (I := fun _ t => ∃ air, t = { g with air }) ?_ [] ⟨g.air, rfl⟩ changes
  rintro - c - ⟨air, rfl⟩
  exact ends_onAir { g with air } _

theorem ends_tells (commands : List IndicatorCommand) :
    (commands.forM tell).Ends g
      (fun _ t => ∃ air, t = { g with outbox := g.outbox ++ commands, air })
      fun _ t => ∃ outbox air, t = { g with outbox, air } := by
  refine Ends.forM (s := g)
    (I := fun told t => ∃ air, t = { g with outbox := g.outbox ++ told, air }) ?_ []
    ⟨g.air, by simp⟩ commands
  rintro told c - ⟨air, rfl⟩
  refine (ends_bind _ _).2 ((ends_onAir _ _).mono ?_ ?_)
  · rintro - - ⟨air, rfl⟩
    exact ⟨air, by simp⟩
  · rintro - - ⟨air, rfl⟩
    exact ⟨_, air, rfl⟩

theorem echoing_concat (done : List Cell) (c : Cell) :
    g.echoing (done ++ [c]) = (g.echoing done).echoing [c] := by
  simp only [echoing, List.foldl_append]

theorem ends_echo (c : Cell) :
    (echo c).Ends g (fun _ t => ∃ air, t = { g.echoing [c] with air })
      fun _ t => ∃ echoed air, t = { g with echoed, air } := by
  cases shown : g.grid.value? g.parameters c with
  | none =>
    simp only [echo, ends_bind, ends_get, echoing, List.foldl_cons, List.foldl_nil, shown]
    exact ⟨g.air, rfl⟩
  | some value =>
    simp only [echo, ends_bind, ends_get, echoing, List.foldl_cons, List.foldl_nil, shown]
    refine (ends_set _).2 ((ends_onAir _ _).mono ?_ ?_)
    · rintro - - ⟨air, rfl⟩
      exact ⟨air, rfl⟩
    · rintro - - ⟨air, rfl⟩
      exact ⟨_, air, rfl⟩

theorem ends_echoes (cells : List Cell) :
    (cells.forM echo).Ends g (fun _ t => ∃ air, t = { g.echoing cells with air })
      fun _ t => ∃ echoed air, t = { g with echoed, air } := by
  refine Ends.forM (I := fun done t => ∃ air, t = { g.echoing done with air }) ?_ []
    ⟨g.air, rfl⟩ cells
  rintro done c - ⟨air, rfl⟩
  refine (ends_echo { g.echoing done with air } c).mono ?_ ?_
  · rintro - - ⟨air, rfl⟩
    exact ⟨air, by rw [echoing_concat]; rfl⟩
  · rintro - - ⟨echoed, air, rfl⟩
    exact ⟨echoed, air, rfl⟩

theorem ends_forget :
    forget.Ends g (fun _ t => ∃ air, t = { g.settled with air })
      fun _ t => ∃ air, t = { g.settled with air } := by
  simp only [forget, ends_bind, ends_get, ends_set]
  exact ends_announces g.settled _

theorem ends_realign :
    realign.Ends g (fun _ t => ∃ air, t = { g.realigned with air })
      fun _ t => ∃ outbox air, t = { g.realigned with outbox, air } := by
  simp only [realign, ends_bind, ends_get, ends_set]
  exact ends_tells { g with alerts := (g.alerts.resync g.parameters g.grid g.registry).1 } _

theorem ends_sync :
    sync.Ends g (fun _ t => ∃ air, t = { g.synced with air })
      fun _ t => ∃ alerts outbox air, t = { g.synced with alerts, outbox, air } := by
  simp only [sync, ends_bind, ends_get, synced]
  split
  · refine (ends_bind _ _).2 ((ends_forget g).mono ?_ ?_)
    · rintro - - ⟨air, rfl⟩
      refine (ends_realign _).mono ?_ ?_
      · rintro - - ⟨air, rfl⟩
        exact ⟨air, rfl⟩
      · rintro - - ⟨outbox, air, rfl⟩
        exact ⟨_, outbox, air, rfl⟩
    · rintro - - ⟨air, rfl⟩
      exact ⟨_, _, air, rfl⟩
  · exact ⟨g.air, rfl⟩

theorem ends_place (p : Placement) :
    (place p).Ends g (fun _ t => t = g.stored p) fun _ t => t = g := by
  cases accepted : g.registry.accept p with
  | ok registry =>
    simp only [place, ends_bind, ends_get, stored, accepted]
    rfl
  | error fault =>
    simp only [place, ends_bind, ends_get, stored, accepted]
    split <;> rfl

theorem ends_detect (event : SensorEvent) :
    (detect event).Ends g
      (fun result t => result = (g.sensed event).1.toOption ∧ t = g.detected event ∧
        ∀ fault, (g.sensed event).1 = .error fault → fault.isFatal = false)
      fun fault t => (g.sensed event).1 = .error fault ∧ fault.isFatal ∧
        t = g.detected event := by
  simp only [detect, ends_bind, ends_get, ends_set]
  split
  · next detection sensed =>
    have sensed : (g.sensed event).1 = .ok detection := sensed
    exact ⟨by rw [sensed]; rfl, rfl, by simp [sensed]⟩
  · next fault sensed =>
    have sensed : (g.sensed event).1 = .error fault := sensed
    split
    · next fatal => exact ⟨sensed, fatal, rfl⟩
    · next harmless => exact ⟨by rw [sensed]; rfl, rfl, by simpa [sensed] using harmless⟩

theorem ends_note (key : SensorKey) :
    (note key).Ends g
      (fun _ t => (∃ result, g.health.record g.parameters key g.minute = .ok result) ∧
        ∃ air, t = { g.noted key with air })
      fun _ t => ∃ air, t = { g.noted key with air } := by
  simp only [note, ends_bind, ends_get, noted]
  split
  · next fault refused =>
    exact ⟨g.air, by rw [refused]⟩
  · next cleared health recorded =>
    rw [recorded]
    refine (ends_bind _ _).2 ((ends_set _).2 ((ends_announces { g with health } _).mono ?_ ?_))
    · intro _ t told
      exact ⟨⟨_, rfl⟩, told⟩
    · exact fun _ _ told => told

theorem noted_air (key : SensorKey) (air : Airtime) :
    { g with air }.noted key = { g.noted key with air } := by
  simp only [noted]
  split <;> rfl

theorem ends_report (event : SensorEvent) (detection : Detection) :
    (do
      note event.key
      onAir (Airtime.forward (sample event detection.state))
      detection.grown.forM echo : Step Gateway Unit).Ends g
      (fun _ t => (∃ result, g.health.record g.parameters event.key g.minute = .ok result) ∧
        ∃ air, t = { (g.noted event.key).echoing detection.grown with air })
      fun _ t => ∃ echoed air, t = { g.noted event.key with echoed, air } := by
  refine (ends_bind _ _).2 ((ends_note g event.key).mono ?_ ?_)
  · rintro - - ⟨recorded, air, rfl⟩
    refine (ends_bind _ _).2 ((ends_onAir _ _).mono ?_ ?_)
    · rintro - - ⟨air, rfl⟩
      refine (ends_echoes _ _).mono ?_ ?_
      · rintro - - ⟨air, rfl⟩
        exact ⟨recorded, air, rfl⟩
      · rintro - - ⟨echoed, air, rfl⟩
        exact ⟨echoed, air, rfl⟩
    · rintro - - ⟨air, rfl⟩
      exact ⟨_, air, rfl⟩
  · rintro - - ⟨air, rfl⟩
    exact ⟨_, air, rfl⟩

theorem ends_sense (event : SensorEvent) :
    (sense event).Ends g
      (fun _ t => (sync.after g).1 = .ok () ∧ (∃ air, t = { g.synced.heard event with air }) ∧
        g.synced.Admits event)
      fun _ t =>
        ((∃ fault, (sync.after g).1 = .error fault) ∧
          ∃ alerts outbox air, t = { g.synced with alerts, outbox, air }) ∨
        ((sync.after g).1 = .ok () ∧
          ∃ echoed air, t = { g.synced.taken event with echoed, air }) := by
  refine (ends_bind _ _).2 ((ends_sync g).self.mono ?_ fun fault _ refused =>
    .inl ⟨⟨fault, refused.1⟩, refused.2⟩)
  rintro ⟨⟩ t ⟨synced, air, rfl⟩
  refine (ends_bind _ _).2 ((ends_detect _ event).mono ?_ ?_)
  · rintro result - ⟨rfl, rfl, harmless⟩
    cases sensed : (g.synced.sensed event).1 with
    | error fault =>
      have refused : ({ g.synced with air }.sensed event).1 = .error fault := sensed
      rw [refused]
      refine ⟨synced, ⟨air, ?_⟩, harmless, by simp [sensed]⟩
      simp only [heard, taken, sensed]
      rfl
    | ok detection =>
      have sensed' : ({ g.synced with air }.sensed event).1 = .ok detection := sensed
      have taken : g.synced.taken event = (g.synced.detected event).noted event.key := by
        simp only [taken, sensed]
      have heard : g.synced.heard event = (g.synced.taken event).echoing detection.grown := by
        simp only [heard, sensed]
      rw [sensed', heard, taken]
      refine (ends_report { g.synced.detected event with air } event detection).mono ?_ ?_
      · rintro - - ⟨recorded, air', rfl⟩
        rw [noted_air]
        exact ⟨synced, ⟨air', rfl⟩, harmless, fun _ _ => recorded⟩
      · rintro - - ⟨echoed, air', rfl⟩
        rw [noted_air]
        exact .inr ⟨synced, echoed, air', rfl⟩
  · rintro fault - ⟨refused, -, rfl⟩
    have sensed : (g.synced.sensed event).1 = .error fault := refused
    refine .inr ⟨synced, g.synced.echoed, air, ?_⟩
    simp only [taken, sensed]
    rfl

theorem ends_closeMinute :
    closeMinute.Ends g (fun _ t => ∃ air, t = { g.minuteClosed with air })
      fun _ t => ∃ air, t = { g.minuteClosed with air } := by
  simp only [closeMinute, ends_bind, ends_get, ends_set]
  exact ends_announces g.minuteClosed _

theorem ends_closeHour :
    closeHour.Ends g (fun _ t => ∃ air, t = { g with air })
      fun _ t => ∃ air, t = { g with air } := by
  simp only [closeHour, ends_bind, ends_get]
  exact ends_announces g _

theorem ends_closeDay :
    closeDay.Ends g (fun _ t => ∃ air, t = { g.dayClosed with air })
      fun _ t => ∃ air, t = { g.dayClosed with air } := by
  simp only [closeDay, ends_bind, ends_get, ends_set]
  exact ends_announces g.dayClosed _

theorem ends_advance :
    advance.Ends g (fun _ t => ∃ air, t = { g.advanced with air })
      fun _ t => ∃ outbox air, t = { g.advanced with outbox, air } := by
  simp only [advance, ends_bind, ends_get, ends_set]
  exact ends_tells
    { g with grid := g.aged, alerts := (g.alerts.tick g.parameters g.aged g.registry).1 } _

theorem ends_closeIf {period : Step Gateway Unit} {next : Gateway} (ended : Bool)
    (h : period.Ends g (fun _ t => ∃ air, t = { next with air })
      fun _ t => ∃ air, t = { next with air }) :
    (closeIf ended period).Ends g (fun _ t => ∃ air, t = { (if ended then next else g) with air })
      fun _ t => ∃ air, t = { (if ended then next else g) with air } := by
  cases ended with
  | false => exact ⟨g.air, rfl⟩
  | true => exact h

/-- Where a period is refused, the ones before it are closed. -/
theorem ends_close (ticks : Ticks) :
    (close ticks).Ends g (fun _ t => ∃ air, t = { g.closed ticks with air })
      fun _ t => ∃ past air, t = { g.closed past with air } := by
  obtain ⟨minute, hour, day⟩ := ticks
  refine (ends_bind _ _).2 ((ends_closeIf g minute (ends_closeMinute g)).mono ?_ ?_)
  · rintro - - ⟨air, rfl⟩
    refine (ends_bind _ _).2 ((ends_closeIf _ hour (ends_closeHour _)).mono ?_ ?_)
    · rintro - - ⟨air, rfl⟩
      refine (ends_closeIf _ day (ends_closeDay _)).mono ?_ ?_
      · rintro - - ⟨air, rfl⟩
        refine ⟨air, ?_⟩
        cases minute <;> cases hour <;> cases day <;> rfl
      · rintro - - ⟨air, rfl⟩
        refine ⟨⟨minute, hour, day⟩, air, ?_⟩
        cases minute <;> cases hour <;> cases day <;> rfl
    · rintro - - ⟨air, rfl⟩
      refine ⟨⟨minute, false, false⟩, air, ?_⟩
      cases minute <;> cases hour <;> rfl
  · rintro - - ⟨air, rfl⟩
    exact ⟨⟨minute, false, false⟩, air, rfl⟩

theorem closed_air (ticks : Ticks) (air : Airtime) :
    { g with air }.closed ticks = { g.closed ticks with air } := by
  simp only [closed]
  split <;> split <;> rfl

theorem ends_passSecond :
    passSecond.Ends g (fun _ t => ∃ air, t = { g.passed with air })
      fun _ t =>
        ((∃ fault, (sync.after g).1 = .error fault) ∧
          ∃ alerts outbox air, t = { g.synced with alerts, outbox, air }) ∨
        (∃ outbox echoed air, t = { g.synced.advanced with outbox, echoed, air }) ∨
        ∃ past air, t = { g.turned.closed past with air } := by
  refine (ends_bind _ _).2 ((ends_sync g).self.mono ?_ fun fault _ refused =>
    .inl ⟨⟨fault, refused.1⟩, refused.2⟩)
  rintro - - ⟨-, air, rfl⟩
  refine (ends_bind _ _).2 ((ends_advance _).mono ?_ ?_)
  · rintro - - ⟨air, rfl⟩
    simp only [ends_bind, ends_get, ends_modify]
    refine (ends_echoes _ _).mono ?_ ?_
    · rintro - - ⟨air, rfl⟩
      change (close g.turned.clock.ticks).Ends { g.turned with air } _ _
      refine (ends_close _ _).mono ?_ ?_
      · rintro - - ⟨air', rfl⟩
        exact ⟨air', by rw [closed_air]; rfl⟩
      · rintro - - ⟨past, air', rfl⟩
        exact .inr (.inr ⟨past, air', by rw [closed_air]⟩)
    · rintro - - ⟨echoed, air, rfl⟩
      exact .inr (.inl ⟨_, echoed, air, rfl⟩)
  · rintro - - ⟨outbox, air, rfl⟩
    exact .inr (.inl ⟨outbox, _, air, rfl⟩)

/-- What a call does, whether it goes through or not. -/
inductive Effect (g : Gateway) (through : Bool) : Stimulus → Gateway → Prop where
  | quiet {s : Stimulus} (health : SensorHealth) (minute : UInt32) (air : Airtime)
      (same : g.health.SameSensors health) (no_event : ∀ event, s ≠ .sensor event)
      (no_second : s ≠ .second) : Effect g through s { g with health, minute, air }
  | placed {s : Stimulus} {registry : Registry} (p : Placement) (asked : s.placement? = some p)
      (accepted : g.registry.accept p = .ok registry) : Effect g through s { g with registry }
  /-- Refused before the placements were taken over. -/
  | stopped {s : Stimulus} (alerts : AlertPanel) (outbox : List IndicatorCommand) (air : Airtime)
      {fault : Fault} (refused : through = false) (unsynced : (sync.after g).1 = .error fault) :
      Effect g through s { g.synced with alerts, outbox, air }
  | sensed (event : SensorEvent) (echoed : List Classification) (air : Airtime)
      (synced : (sync.after g).1 = .ok ()) (admitted : through → g.synced.Admits event) :
      Effect g through (.sensor event) { g.synced.taken event with echoed, air }
  | second (clock : Clock) (minute : UInt32) (health : SensorHealth)
      (outbox : List IndicatorCommand) (echoed : List Classification) (air : Airtime)
      (same : g.synced.health.SameSensors health)
      (told : through → outbox = g.synced.advanced.outbox) :
      Effect g through .second
        { g.synced.advanced with clock, minute, health, outbox, echoed, air }

theorem effect_place {s : Stimulus} (p : Placement) (asked : s.placement? = some p) :
    (place p).Ends g (fun _ => Effect g true s) fun _ => Effect g false s := by
  have quiet : ∀ through, Effect g through s g := fun through =>
    .quiet g.health g.minute g.air (.refl _) (by rintro event rfl; contradiction)
      (by rintro rfl; contradiction)
  refine (ends_place g p).mono ?_ ?_
  · rintro _ t rfl
    unfold stored
    split
    · next accepted => exact .placed p asked accepted
    · exact quiet true
  · rintro _ t same
    exact same ▸ quiet false

theorem effect_second :
    passSecond.Ends g (fun _ => Effect g true .second) fun _ => Effect g false .second := by
  have ended : ∀ through past air, Effect g through .second { g.turned.closed past with air } := by
    intro through past air
    obtain ⟨minute, health, same, closed⟩ := closed_eq g.turned past
    rw [closed]
    exact .second _ minute health _ _ air same fun _ => rfl
  refine (ends_passSecond g).mono ?_ ?_
  · rintro _ - ⟨air, rfl⟩
    exact ended true _ air
  · rintro _ - (⟨⟨fault, unsynced⟩, alerts, outbox, air, rfl⟩ | ⟨outbox, echoed, air, rfl⟩ |
      ⟨past, air, rfl⟩)
    · exact .stopped alerts outbox air rfl unsynced
    · exact .second _ _ _ outbox echoed air (.refl _) (by simp)
    · exact ended false past air

theorem effect_quiet {s : Stimulus} {step : Step Gateway Unit} {health : SensorHealth}
    {minute : UInt32} (same : g.health.SameSensors health) (no_event : ∀ event, s ≠ .sensor event)
    (no_second : s ≠ .second)
    (h : step.Ends g (fun _ t => ∃ air, t = { g with health, minute, air })
      fun _ t => ∃ air, t = { g with health, minute, air }) :
    step.Ends g (fun _ => Effect g true s) fun _ => Effect g false s := by
  refine h.mono ?_ ?_
  · rintro _ - ⟨air, rfl⟩
    exact .quiet health minute air same no_event no_second
  · rintro _ - ⟨air, rfl⟩
    exact .quiet health minute air same no_event no_second

theorem effect_on (s : Stimulus) :
    (on s).Ends g (fun _ => Effect g true s) fun _ => Effect g false s := by
  cases s with
  | sensor event =>
    refine (ends_sense g event).mono ?_ ?_
    · rintro _ - ⟨synced, ⟨air, rfl⟩, admitted⟩
      obtain ⟨echoed, heard⟩ := heard_eq g.synced event
      rw [heard]
      exact .sensed event echoed air synced fun _ => admitted
    · rintro _ - (⟨⟨fault, unsynced⟩, alerts, outbox, air, rfl⟩ | ⟨synced, echoed, air, rfl⟩)
      · exact .stopped alerts outbox air rfl unsynced
      · exact .sensed event echoed air synced (by simp)
  | placement p => exact effect_place g p rfl
  | placementPage payload =>
    change (placePage payload).Ends _ _ _
    unfold placePage
    split
    · next p readable =>
      refine effect_place g p ?_
      rw [Stimulus.placement?, readable]
      rfl
    · exact .quiet g.health g.minute g.air (.refl _) (by simp) (by simp)
  | acknowledgement a => exact effect_quiet g (.refl _) (by simp) (by simp) (ends_onAir g _)
  | second => exact effect_second g
  | minute =>
    exact effect_quiet g (SensorHealth.sameSensors_evaluateHyperactivity _ _) (by simp) (by simp)
      (ends_closeMinute g)
  | hour => exact effect_quiet g (.refl _) (by simp) (by simp) (ends_closeHour g)
  | day =>
    exact effect_quiet g (SensorHealth.sameSensors_evaluateInactivity _ _) (by simp) (by simp)
      (ends_closeDay g)
  | pagePeriod => exact .quiet g.health g.minute _ (.refl _) (by simp) (by simp)

theorem effect_after (s : Stimulus) :
    ∃ through, (through = true ↔ ((on s).after g).1 = .ok ()) ∧
      Effect g through s ((on s).after g).2 := by
  have effect := effect_on g s
  cases result : ((on s).after g).1 with
  | ok => exact ⟨true, by simp, effect.of_ok result⟩
  | error fault => exact ⟨false, by simp, effect.of_error result⟩

theorem deployment_of_effect {through : Bool} {s : Stimulus} {t : Gateway}
    (effect : Effect g through s t) : t.deployment = g.deployment := by
  have synced : g.synced.deployment = g.deployment := by
    unfold Gateway.synced
    split <;> rfl
  cases effect with
  | quiet => rfl
  | placed => rfl
  | stopped => exact synced
  | sensed event =>
    obtain ⟨health, -, taken⟩ := taken_eq g.synced event
    rw [taken]
    exact synced
  | second => exact synced

theorem deployment_on (s : Stimulus) : ((on s).after g).2.deployment = g.deployment := by
  obtain ⟨through, -, effect⟩ := effect_after g s
  exact deployment_of_effect g effect

end Gateway

end WildlifeWarning
