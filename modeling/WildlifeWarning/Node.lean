import WildlifeWarning.Geometry.Position

/-! Field nodes, the sensors they carry and what those report. -/

namespace WildlifeWarning

/-- A node's number; zero names no node. -/
abbrev NodeId := UInt16

inductive SensorKind where
  | motion
  | ranging
  deriving DecidableEq, Repr

def SensorKind.code : SensorKind → UInt8
  | motion => 1
  | ranging => 2

inductive NodeType where
  | unknown
  | pirPir
  | pirLidar
  | pirLidarLed
  deriving DecidableEq, Repr

namespace NodeType

def ofBits (byte : UInt8) : NodeType :=
  match byte.toNat % 4 with
  | 1 => pirPir
  | 2 => pirLidar
  | 3 => pirLidarLed
  | _ => unknown

def bits : NodeType → UInt8
  | unknown => 0
  | pirPir => 1
  | pirLidar => 2
  | pirLidarLed => 3

@[simp] theorem ofBits_bits (t : NodeType) : ofBits t.bits = t := by
  cases t <;> rfl

/-- The sensors, each with its rotation from the node's own. -/
def sensors : NodeType → List (Octant × SensorKind)
  | unknown => []
  | pirPir => [(Facing.up.octant, .motion), (Facing.left.octant, .motion)]
  | pirLidar | pirLidarLed => [(Facing.up.octant, .ranging), (Facing.right.octant, .motion)]

theorem length_sensors_le (t : NodeType) : t.sensors.length ≤ 2 := by
  cases t <;> decide

end NodeType

structure SensorKey where
  node : NodeId
  rotation : Octant
  kind : SensorKind
  deriving DecidableEq

/-- The place on a node that a sensor is fixed to. -/
structure Mount where
  node : NodeId
  rotation : Octant
  deriving DecidableEq

def SensorKey.mount (k : SensorKey) : Mount := ⟨k.node, k.rotation⟩

def Mount.before (a b : Mount) : Bool :=
  a.node < b.node || (a.node == b.node && a.rotation < b.rotation)

inductive Reading where
  | motion (detected : Bool)
  | ranging (distanceCm : UInt16)
  deriving DecidableEq

def Reading.kind : Reading → SensorKind
  | motion _ => .motion
  | ranging _ => .ranging

structure SensorEvent where
  node : NodeId
  rotation : Octant
  reading : Reading
  deriving DecidableEq

def SensorEvent.key (e : SensorEvent) : SensorKey := ⟨e.node, e.rotation, e.reading.kind⟩

structure Placement where
  node : NodeId
  position : Position
  offset : Offset
  rotation : Octant
  type : NodeType
  deriving DecidableEq

def Placement.sensors (p : Placement) : List SensorKey :=
  p.type.sensors.map fun (rotation, kind) => ⟨p.node, rotation, kind⟩

theorem Placement.node_of_mem_sensors {p : Placement} {k : SensorKey} (h : k ∈ p.sensors) :
    k.node = p.node := by
  obtain ⟨_, _, rfl⟩ := List.mem_map.1 h
  rfl

end WildlifeWarning
