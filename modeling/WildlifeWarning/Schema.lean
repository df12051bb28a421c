import WildlifeWarning.Gateway.Basic
import WildlifeWarning.Text.Datum

/-! How the values of the domain stand in documents: the names of their fields, which of those may
be missing, and the names of choices. Each type is read by `read?` and written by `datum`. -/

namespace WildlifeWarning

def nodeId? (d : Datum) : Option NodeId := d.word?

def word32? (d : Datum) : Option Nat := d.natural? (UInt32.size - 1)

def word64? (d : Datum) : Option Nat := d.natural? (UInt64.size - 1)

namespace Octant

def read? (d : Datum) : Option Octant := (d.natural? 255).bind ofNat?

def datum (o : Octant) : Datum := .integer o.val

end Octant

namespace PageTag

def read? (d : Datum) : Option PageTag := d.byte?.map PageTag.mk

def datum (t : PageTag) : Datum := .integer t.code.toNat

end PageTag

def nameIn {α : Type} [DecidableEq α] (choices : List (String × α)) (a : α) : String :=
  ((choices.find? fun (_, b) => b = a).map Prod.fst).getD ""

namespace SensorKind

def choices : List (String × SensorKind) := [("motion", motion), ("ranging", ranging)]

def read? (m : Manner) : Datum → Option SensorKind := Datum.choice? m choices

def datum (k : SensorKind) : Datum := .text (nameIn choices k)

end SensorKind

namespace NodeType

def choices : List (String × NodeType) :=
  [("unknown", unknown), ("pir_pir", pirPir), ("pir_lidar", pirLidar),
    ("pir_lidar_led", pirLidarLed)]

def read? (m : Manner) : Datum → Option NodeType := Datum.choice? m choices

def datum (t : NodeType) : Datum := .text (nameIn choices t)

end NodeType

namespace Classification

def choices : List (String × Classification) :=
  [("Idle", idle), ("Possible", possible), ("Detected", detected)]

def read? (m : Manner) : Datum → Option Classification := Datum.choice? m choices

def datum (c : Classification) : Datum := .text (nameIn choices c)

end Classification

namespace Level

def choices : List (String × Level) := [("Idle", idle), ("Concern", concern), ("Alarm", alarm)]

def read? (m : Manner) : Datum → Option Level := Datum.choice? m choices

def datum (l : Level) : Datum := .text (nameIn choices l)

end Level

namespace LedFunction

def choices : List (String × LedFunction) :=
  [("off", off), ("blinking", blinking), ("solid", solid)]

def read? (m : Manner) : Datum → Option LedFunction := Datum.choice? m choices

def datum (f : LedFunction) : Datum := .text (nameIn choices f)

end LedFunction

namespace LedColour

def choices : List (String × LedColour) := [("yellow", yellow), ("red", red)]

def read? (m : Manner) : Datum → Option LedColour := Datum.choice? m choices

def datum (c : LedColour) : Datum := .text (nameIn choices c)

end LedColour

namespace Position

def read? (m : Manner) (d : Datum) : Option Position := do
  let fs ← d.fields? m ["x", "y"]
  return ⟨← fs.required "x" Datum.signedByte?, ← fs.required "y" Datum.signedByte?⟩

def datum (p : Position) : Datum := .record [("x", .integer p.x.toInt), ("y", .integer p.y.toInt)]

end Position

namespace Offset

def read? (m : Manner) (d : Datum) : Option Offset := do
  let fs ← d.fields? m ["x", "y"]
  return ⟨← fs.required "x" Datum.signedByte?, ← fs.required "y" Datum.signedByte?⟩

def datum (o : Offset) : Datum := .record [("x", .integer o.x.toInt), ("y", .integer o.y.toInt)]

end Offset

namespace Placement

def read? (m : Manner) (d : Datum) : Option Placement := do
  let fs ← d.fields? m ["node_id", "position", "offset", "rotation", "node_type"]
  return {
    node := ← fs.required "node_id" nodeId?
    position := ← fs.required "position" (Position.read? m)
    offset := ← fs.optional "offset" (Offset.read? m) .zero
    rotation := ← fs.required "rotation" Octant.read?
    type := ← fs.required "node_type" (NodeType.read? m) }

def datum (p : Placement) : Datum :=
  .record [("node_id", .integer p.node.toNat), ("position", p.position.datum),
    ("offset", p.offset.datum), ("rotation", Octant.datum p.rotation), ("node_type", p.type.datum)]

end Placement

namespace Reading

def motion? (m : Manner) (d : Datum) : Option Reading := do
  let fs ← d.fields? m ["detected"]
  return .motion (← fs.required "detected" Datum.bool?)

def ranging? (m : Manner) (d : Datum) : Option Reading := do
  let fs ← d.fields? m ["distance_cm"]
  return .ranging (← fs.required "distance_cm" Datum.word?)

def read? (m : Manner) : Datum → Option Reading :=
  Datum.tagged? m "kind" [("motion", motion?), ("ranging", ranging?)]

def datum : Reading → Datum
  | motion detected => .record [("kind", .text "motion"), ("detected", .bool detected)]
  | ranging distanceCm =>
    .record [("kind", .text "ranging"), ("distance_cm", .integer distanceCm.toNat)]

end Reading

namespace SensorEvent

def read? (m : Manner) (d : Datum) : Option SensorEvent := do
  let fs ← d.fields? m ["node_id", "rotation", "reading"]
  return {
    node := ← fs.required "node_id" nodeId?
    rotation := ← fs.required "rotation" Octant.read?
    reading := ← fs.required "reading" (Reading.read? m) }

def datum (e : SensorEvent) : Datum :=
  .record [("node_id", .integer e.node.toNat), ("rotation", Octant.datum e.rotation),
    ("reading", e.reading.datum)]

end SensorEvent

namespace SensorKey

def read? (m : Manner) (d : Datum) : Option SensorKey := do
  let fs ← d.fields? m ["node_id", "rotation", "kind"]
  return {
    node := ← fs.required "node_id" nodeId?
    rotation := ← fs.required "rotation" Octant.read?
    kind := ← fs.required "kind" (SensorKind.read? m) }

def datum (k : SensorKey) : Datum :=
  .record [("node_id", .integer k.node.toNat), ("rotation", Octant.datum k.rotation),
    ("kind", k.kind.datum)]

end SensorKey

namespace Acknowledgement

def read? (m : Manner) (d : Datum) : Option Acknowledgement := do
  let fs ← d.fields? m ["page", "message_id"]
  return ⟨← fs.required "page" PageTag.read?, ← fs.required "message_id" Datum.byte?⟩

def datum (a : Acknowledgement) : Datum :=
  .record [("page", a.page.datum), ("message_id", .integer a.messageId.toNat)]

end Acknowledgement

namespace IndicatorCommand

def read? (m : Manner) (d : Datum) : Option IndicatorCommand := do
  let fs ← d.fields? m ["node_id", "level", "function", "colour"]
  return {
    node := ← fs.required "node_id" nodeId?
    level := ← fs.required "level" (Level.read? m)
    function := ← fs.required "function" (LedFunction.read? m)
    colour := ← fs.required "colour" (LedColour.read? m) }

def datum (c : IndicatorCommand) : Datum :=
  .record [("node_id", .integer c.node.toNat), ("level", c.level.datum),
    ("function", c.function.datum), ("colour", c.colour.datum)]

end IndicatorCommand

namespace Layout

def read? (m : Manner) (d : Datum) : Option Layout := do
  let fs ← d.fields? m ["nodes_x", "nodes_y"]
  return ⟨← fs.optional "nodes_x" Datum.byte? Tuned.nodes,
    ← fs.optional "nodes_y" Datum.byte? Tuned.nodes⟩

def datum (l : Layout) : Datum :=
  .record [("nodes_x", .integer l.nodesX.toNat), ("nodes_y", .integer l.nodesY.toNat)]

end Layout

namespace Parameters

/-- The fields of the parameters, in the order in which a list gives them. -/
def fieldNames : List String :=
  ["grid", "av_min", "av_max", "common_weight", "motion_weight", "ranging_weight", "road_proximity",
    "common_trickle", "motion_trickle", "ranging_trickle", "road_trickle", "decay_factor",
    "possible_threshold_roadside", "possible_threshold_inland", "detection_threshold_roadside",
    "detection_threshold_inland", "concern_dwell_s", "alarm_dwell_s", "reinforcement_period_s",
    "hyperactivity_window", "hyperactivity_threshold_minutes", "node_separation_cm",
    "offset_scale_cm"]

/-- A missing field takes its tuned value. -/
def read? (m : Manner) (d : Datum) : Option Parameters := do
  let fs ← d.fields? m fieldNames
  let table := Datum.list? Datum.single?
  return {
    grid := ← fs.optional "grid" (Layout.read? m) Tuned.grid
    activityMin := ← fs.optional "av_min" Datum.single? Tuned.activityMin
    activityMax := ← fs.optional "av_max" Datum.single? Tuned.activityMax
    commonWeight := ← fs.optional "common_weight" Datum.single? Tuned.one
    motionWeight := ← fs.optional "motion_weight" Datum.single? Tuned.motionWeight
    rangingWeight := ← fs.optional "ranging_weight" Datum.single? Tuned.rangingWeight
    roadProximity := ← fs.optional "road_proximity" table Tuned.roadProximity
    commonTrickle := ← fs.optional "common_trickle" Datum.single? Tuned.one
    motionTrickle := ← fs.optional "motion_trickle" Datum.single? Tuned.motionTrickle
    rangingTrickle := ← fs.optional "ranging_trickle" Datum.single? Tuned.rangingTrickle
    roadTrickle := ← fs.optional "road_trickle" table Tuned.roadTrickle
    decayFactor := ← fs.optional "decay_factor" Datum.single? Tuned.decayFactor
    possibleRoadside :=
      ← fs.optional "possible_threshold_roadside" Datum.single? Tuned.possibleRoadside
    possibleInland := ← fs.optional "possible_threshold_inland" Datum.single? Tuned.possibleInland
    detectionRoadside :=
      ← fs.optional "detection_threshold_roadside" Datum.single? Tuned.detectionRoadside
    detectionInland :=
      ← fs.optional "detection_threshold_inland" Datum.single? Tuned.detectionInland
    concernDwell := ← fs.optional "concern_dwell_s" word32? Tuned.concernDwell
    alarmDwell := ← fs.optional "alarm_dwell_s" word32? Tuned.alarmDwell
    reinforcementPeriod := ← fs.optional "reinforcement_period_s" word32? Tuned.reinforcementPeriod
    hyperactivityWindow := ← fs.optional "hyperactivity_window" word64? Tuned.hyperactivityWindow
    hyperactivityMinutes :=
      ← fs.optional "hyperactivity_threshold_minutes" Datum.single? Tuned.one
    nodeSeparationCm := ← fs.optional "node_separation_cm" Datum.word? Tuned.nodeSeparationCm
    offsetScaleCm := ← fs.optional "offset_scale_cm" Datum.word? Tuned.offsetScaleCm }

end Parameters

namespace Deployment

def fieldNames : List String :=
  ["node_capacity", "sensor_capacity", "page_pool_capacity", "sample_queue_capacity",
    "sensor_error_capacity", "page_period_ms"]

/-- A missing field takes its tuned value. -/
def read? (m : Manner) (d : Datum) : Option Deployment := do
  let fs ← d.fields? m fieldNames
  return {
    nodeCapacity := ← fs.optional "node_capacity" word64? Tuned.nodeCapacity
    sensorCapacity := ← fs.optional "sensor_capacity" word64? Tuned.sensorCapacity
    pagePoolCapacity := ← fs.optional "page_pool_capacity" word64? Tuned.pagePoolCapacity
    sampleQueueCapacity := ← fs.optional "sample_queue_capacity" word64? Tuned.sampleQueueCapacity
    sensorErrorCapacity := ← fs.optional "sensor_error_capacity" word64? Tuned.sensorErrorCapacity
    pagePeriodMs := ← fs.optional "page_period_ms" word64? Tuned.pagePeriodMs }

def datum (g : Deployment) : Datum :=
  .record [("node_capacity", .integer g.nodeCapacity),
    ("sensor_capacity", .integer g.sensorCapacity),
    ("page_pool_capacity", .integer g.pagePoolCapacity),
    ("sample_queue_capacity", .integer g.sampleQueueCapacity),
    ("sensor_error_capacity", .integer g.sensorErrorCapacity),
    ("page_period_ms", .integer g.pagePeriodMs)]

end Deployment

end WildlifeWarning
