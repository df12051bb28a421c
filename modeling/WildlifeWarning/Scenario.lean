import WildlifeWarning.Schema
import WildlifeWarning.Text.Toml

/-! Scenarios: scripted inputs of a gateway in simulated time, and their replay.
Time moves in steps of a second and only where the script says so. -/

namespace WildlifeWarning

inductive Action where
  | placement (p : Placement)
  | sensor (event : SensorEvent)
  | acknowledgement (a : Acknowledgement)
  /-- So many seconds pass. -/
  | advance (seconds : Nat)
  deriving DecidableEq

namespace Action

def motion? (m : Manner) (d : Datum) : Option Action := do
  let fs ← d.fields? m ["node_id", "rotation", "detected"]
  return .sensor ⟨← fs.required "node_id" nodeId?, ← fs.required "rotation" Octant.read?,
    .motion (← fs.required "detected" Datum.bool?)⟩

def ranging? (m : Manner) (d : Datum) : Option Action := do
  let fs ← d.fields? m ["node_id", "rotation", "distance_cm"]
  return .sensor ⟨← fs.required "node_id" nodeId?, ← fs.required "rotation" Octant.read?,
    .ranging (← fs.required "distance_cm" Datum.word?)⟩

def advance? (m : Manner) (d : Datum) : Option Action := do
  let fs ← d.fields? m ["seconds"]
  return .advance (← fs.required "seconds" word32?)

def read? (m : Manner) : Datum → Option Action :=
  Datum.tagged? m "action" [
    ("position", fun m d => (Placement.read? m d).map .placement),
    ("motion", motion?),
    ("ranging", ranging?),
    ("ack", fun m d => (Acknowledgement.read? m d).map .acknowledgement),
    ("advance", advance?)]

def duration : Action → Nat
  | advance seconds => seconds
  | _ => 0

end Action

structure Scenario where
  actions : List Action := []
  deriving DecidableEq

namespace Scenario

def read? (m : Manner) (d : Datum) : Option Scenario := do
  let fs ← d.fields? m ["step"]
  return ⟨← fs.optional "step" (Datum.list? (Action.read? m)) []⟩

def parse? (text : String) : Option Scenario := (Toml.parse? text).bind (read? .surplus)

def duration (s : Scenario) : Nat :=
  s.actions.foldr (fun action seconds => action.duration + seconds) 0

end Scenario

structure TimedCommand where
  second : Nat
  command : IndicatorCommand
  deriving DecidableEq

structure Replay where
  gateway : Gateway
  now : Nat := 0
  timeline : Array TimedCommand := #[]
  deriving DecidableEq

namespace Replay

def gather (r : Replay) : Replay :=
  let (commands, gateway) := r.gateway.drain
  { r with gateway, timeline := r.timeline ++ (commands.map (⟨r.now, ·⟩)).toArray }

def feed (s : Stimulus) : Step Replay Unit :=
  (Gateway.on s).within gateway fun r gateway => { r with gateway }

/-- Channel periods in a second; one at least. -/
def periodsPerSecond (d : Deployment) : Nat := max 1 (1000 / max 1 d.pagePeriodMs)

def rotate (n : Nat) (g : Gateway) : Gateway :=
  { g with air := { g.air with carousel := (g.air.carousel.rotations n).2 } }

def second : Step Replay Unit := do
  modify fun r => { r with now := r.now + 1 }
  feed .second
  modify fun r => { r with gateway := rotate (periodsPerSecond r.gateway.deployment) r.gateway }
  modify gather

def seconds : Nat → Step Replay Unit
  | 0 => pure ()
  | n + 1 => do
    second
    seconds n

def act : Action → Step Replay Unit
  | .placement p => feed (.placement p)
  | .sensor event => feed (.sensor event)
  | .acknowledgement a => feed (.acknowledgement a)
  | .advance n => seconds n

def acts : List Action → Step Replay Unit
  | [] => pure ()
  | action :: rest => do
    act action
    acts rest

end Replay

def Scenario.replay (s : Scenario) (g : Gateway) : Except Fault (List TimedCommand) × Gateway :=
  let (result, r) := (Replay.acts s.actions).after { gateway := g }
  match result with
  | .ok () =>
    let r := r.gather
    (.ok r.timeline.toList, r.gateway)
  | .error fault => (.error fault, r.gateway)

end WildlifeWarning
