import WildlifeWarning.AlertPanel
import WildlifeWarning.Clock
import WildlifeWarning.Detector
import WildlifeWarning.SensorHealth
import WildlifeWarning.Air.Airtime
import WildlifeWarning.Page.Inbound

/-! The gateway: the spatial model and the alarms on one side, the reporting on the other.
Inputs that cannot be interpreted are dropped; a pool without room is a fault that the caller must
halt on. A change of placements is applied before the next sensor event or second. -/

namespace WildlifeWarning

namespace Tuned

def nodeCapacity : Nat := 9
def sensorCapacity : Nat := 18
def pagePoolCapacity : Nat := 16
def sampleQueueCapacity : Nat := 50
def sensorErrorCapacity : Nat := 16
def pagePeriodMs : Nat := 500

end Tuned

structure Deployment where
  nodeCapacity : Nat := Tuned.nodeCapacity
  sensorCapacity : Nat := Tuned.sensorCapacity
  pagePoolCapacity : Nat := Tuned.pagePoolCapacity
  sampleQueueCapacity : Nat := Tuned.sampleQueueCapacity
  sensorErrorCapacity : Nat := Tuned.sensorErrorCapacity
  pagePeriodMs : Nat := Tuned.pagePeriodMs
  deriving DecidableEq

def Condition.tag : Condition → PageTag
  | hyperactive => .hyperactive
  | inactive => .inactive

structure Gateway where
  parameters : Parameters
  deployment : Deployment
  registry : Registry
  grid : ActivityGrid
  detector : Detector
  health : SensorHealth
  alerts : AlertPanel
  clock : Clock := {}
  /-- Stamps sensor events. -/
  minute : UInt32 := 1
  /-- The class of each cell that was last echoed. -/
  echoed : List Classification
  /-- Commands for the mesh, oldest first. -/
  outbox : List IndicatorCommand := []
  air : Airtime
  deriving DecidableEq

namespace Gateway

def fresh (p : Parameters) (d : Deployment) (alerts : AlertPanel) : Gateway :=
  let cells := p.grid.rows * p.grid.cols
  { parameters := p
    deployment := d
    registry := { capacity := d.nodeCapacity }
    grid := .atFloor p
    detector := { capacity := d.sensorCapacity }
    health := { capacity := d.sensorCapacity }
    alerts
    echoed := List.replicate cells .idle
    air := {
      carousel := .empty d.pagePoolCapacity
      samples := .ofCapacity d.sampleQueueCapacity
      indicatorEcho :=
        { name := "indicator echo slots", tag := .indicator, replicas := 1, capacity := 3 }
      activityEcho :=
        { name := "activity echo slots", tag := .activity, replicas := 2, capacity := cells }
      healthReports := .empty d.sensorErrorCapacity } }

def build (p : Parameters) (d : Deployment) : Except Fault Gateway := do
  p.validate
  return fresh p d (← AlertPanel.ofParameters p)

def onAir {α : Type} (step : Step Airtime α) : Step Gateway α :=
  step.within air fun g air => { g with air }

/-- Tells an indicator's node its level, after echoing that. -/
def tell (c : IndicatorCommand) : Step Gateway Unit := do
  onAir (Airtime.echoCommand c)
  modify fun g => { g with outbox := g.outbox ++ [c] }

def announce (c : HealthChange) : Step Gateway Unit :=
  onAir (Airtime.reportHealth ⟨c.key, c.condition.tag, c.active⟩)

def echo (c : Cell) : Step Gateway Unit := do
  let g ← get
  match g.grid.value? g.parameters c with
  | none => pure ()
  | some value =>
    let class_ := g.grid.classify g.parameters c
    set { g with echoed := g.echoed.set (g.parameters.grid.index c) class_ }
    onAir (Airtime.echo c value class_)

def forget : Step Gateway Unit := do
  let g ← get
  let (cleared, health) := g.health.sync g.registry
  set { g with
    registry := g.registry.unchanged
    detector := g.detector.sync g.registry
    health }
  cleared.forM announce

def realign : Step Gateway Unit := do
  let g ← get
  let (alerts, commands) := g.alerts.resync g.parameters g.grid g.registry
  set { g with alerts }
  commands.forM tell

/-- Brings everything in line with the placements, if one was stored since the last time. -/
def sync : Step Gateway Unit := do
  if (← get).registry.changed then
    forget
    realign

/-- Stores a placement; one for node zero is dropped. -/
def place (p : Placement) : Step Gateway Unit := do
  let g ← get
  match g.registry.accept p with
  | .ok registry => set { g with registry }
  | .error fault => if fault.isFatal then throw fault

/-- Stores the placement that a page carries; a page of another kind is dropped. -/
def placePage (payload : Payload) : Step Gateway Unit :=
  match Placement.ofPage payload with
  | .ok p => place p
  | .error _ => pure ()

def sample (event : SensorEvent) (state : SensorState) : Report :=
  match event.reading with
  | .motion detected => .motion event.node event.rotation detected
  | .ranging distanceCm =>
    let zone := match state with
      | .ranging zone => zone
      | .motion _ => .none
    .ranging event.node event.rotation distanceCm zone.code

/-- Applies a sensor event to the model; `none` if it cannot be placed. -/
def detect (event : SensorEvent) : Step Gateway (Option Detection) := do
  let g ← get
  let (result, detector, grid) :=
    Detector.sense g.parameters g.registry (g.health.isHyperactive event.key) g.detector g.grid
      event
  set { g with detector, grid }
  match result with
  | .ok detection => return some detection
  | .error fault =>
    if fault.isFatal then throw fault
    return none

def note (key : SensorKey) : Step Gateway Unit := do
  let g ← get
  match g.health.record g.parameters key g.minute with
  | .error fault => throw fault
  | .ok (cleared, health) =>
    set { g with health }
    cleared.toList.forM announce

/-- Takes up a sensor event and forwards it; one that cannot be placed is dropped. -/
def sense (event : SensorEvent) : Step Gateway Unit := do
  sync
  match ← detect event with
  | none => pure ()
  | some detection =>
    note event.key
    onAir (Airtime.forward (sample event detection.state))
    detection.grown.forM echo

def acknowledge (a : Acknowledgement) : Step Gateway Unit := onAir (Airtime.acknowledge a)

def closeMinute : Step Gateway Unit := do
  let g ← get
  let (changes, health) := g.health.evaluateHyperactivity g.parameters
  set { g with minute := g.minute + 1, health }
  changes.forM announce

def closeHour : Step Gateway Unit := do
  (← get).health.flagged.forM announce

def closeDay : Step Gateway Unit := do
  let g ← get
  let (changes, health) := g.health.evaluateInactivity g.registry
  set { g with health }
  changes.forM announce

/-- The cells whose class is not the one last echoed. -/
def reclassified (g : Gateway) : List Cell :=
  g.parameters.grid.cells.filter fun c =>
    g.echoed[g.parameters.grid.index c]? ≠ some (g.grid.classify g.parameters c)

def advance : Step Gateway Unit := do
  let g ← get
  let decayed := g.grid.decay g.parameters g.parameters.decayFactor
  let grid :=
    g.detector.trickle g.parameters g.registry g.health.isHyperactive decayed
  let (alerts, commands) := g.alerts.tick g.parameters grid g.registry
  set { g with grid, alerts }
  commands.forM tell

def closeIf (ended : Bool) (period : Step Gateway Unit) : Step Gateway Unit :=
  if ended then period else pure ()

def close (ticks : Ticks) : Step Gateway Unit := do
  closeIf ticks.minute closeMinute
  closeIf ticks.hour closeHour
  closeIf ticks.day closeDay

/-- One second: decay, trickle, alerts, echo of cells that changed class, and the periods that the
second closes. -/
def passSecond : Step Gateway Unit := do
  sync
  advance
  (← get).reclassified.forM echo
  modify fun g => { g with clock := g.clock.advance }
  close (← get).clock.ticks

def airNext (g : Gateway) : Gateway :=
  { g with air := { g.air with carousel := g.air.carousel.rotate } }

def drain (g : Gateway) : List IndicatorCommand × Gateway := (g.outbox, { g with outbox := [] })

end Gateway

inductive Stimulus where
  | sensor (event : SensorEvent)
  | placement (p : Placement)
  | placementPage (payload : Payload)
  | acknowledgement (a : Acknowledgement)
  | second
  | minute
  | hour
  | day
  | pagePeriod
  deriving DecidableEq

def Gateway.on : Stimulus → Step Gateway Unit
  | .sensor event => sense event
  | .placement p => place p
  | .placementPage payload => placePage payload
  | .acknowledgement a => acknowledge a
  | .second => passSecond
  | .minute => closeMinute
  | .hour => closeHour
  | .day => closeDay
  | .pagePeriod => modify airNext

end WildlifeWarning
