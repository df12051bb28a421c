import WildlifeWarning.ActivityGrid
import WildlifeWarning.Registry

/-! From sensor events to growth of the activity field.
A reading is reduced to a state: motion or not, or the zone of a distance. Only a sensor's change
into an active state grows the field, and each following second a lasting state reinforces the same
cells. A record remembers the placement under which its state was entered. -/

namespace WildlifeWarning

/-- Where a ranging sensor sees its target: before the first node ahead, before the second, or
neither. -/
inductive Zone where
  | none
  | near
  | far
  deriving DecidableEq, Repr

def Zone.code : Zone → UInt8
  | none => 0
  | near => 1
  | far => 2

inductive SensorState where
  | motion (detected : Bool)
  | ranging (zone : Zone)
  deriving DecidableEq

namespace SensorState

def isActive : SensorState → Bool
  | motion detected => detected
  | ranging zone => zone != .none

def idle : SensorKind → SensorState
  | .motion => motion false
  | .ranging => ranging .none

@[simp] theorem isActive_idle (kind : SensorKind) : (idle kind).isActive = false := by
  cases kind <;> rfl

/-- The place from which a detection is seen; a far one lies one node further along. -/
def origin (s : SensorState) (position : Position) (facing : Facing) : Position :=
  match s with
  | ranging .far => position.stepped facing 1
  | _ => position

end SensorState

/-- Where a sensor at `node` expects the node so many places ahead: at the nominal separation for
each, corrected by how far the two nodes are off their places along the facing. A missing node is at
its place. -/
def Registry.expectedDistance (r : Registry) (p : Parameters) (node : Placement) (facing : Facing)
    (places : Int8) : Int :=
  let ahead := match r.at? (node.position.stepped facing places) with
    | some n => n.offset.along facing
    | none => 0
  places.toInt * p.nodeSeparationCm.toNat +
    (ahead - node.offset.along facing) * p.offsetScaleCm.toNat

def Registry.zone (r : Registry) (p : Parameters) (node : Placement) (facing : Facing)
    (distanceCm : UInt16) : Zone :=
  if distanceCm.toNat < r.expectedDistance p node facing 1 then .near
  else if distanceCm.toNat < r.expectedDistance p node facing 2 then .far
  else .none

def Registry.state (r : Registry) (p : Parameters) (node : Placement) (facing : Facing) :
    Reading → SensorState
  | .motion detected => .motion detected
  | .ranging distanceCm => .ranging (r.zone p node facing distanceCm)

structure SensorRecord where
  key : SensorKey
  state : SensorState
  position : Position
  rotation : Octant
  deriving DecidableEq

namespace SensorRecord

def fresh (key : SensorKey) (node : Placement) : SensorRecord :=
  ⟨key, .idle key.kind, node.position, node.rotation⟩

def placedAs (r : SensorRecord) (node : Placement) : Bool :=
  r.position == node.position && r.rotation == node.rotation

/-- A node that has moved or turned makes the sensor start again. -/
def settle (r : SensorRecord) (node : Placement) : SensorRecord :=
  if r.placedAs node then r else fresh r.key node

@[simp] theorem key_settle (r : SensorRecord) (node : Placement) : (r.settle node).key = r.key := by
  unfold settle
  split <;> rfl

@[simp] theorem placedAs_settle (r : SensorRecord) (node : Placement) :
    (r.settle node).placedAs node = true := by
  unfold settle
  split
  · assumption
  · simp [placedAs, fresh]

theorem settle_of_active {r : SensorRecord} {node : Placement}
    (active : (r.settle node).state.isActive) : r.settle node = r := by
  unfold settle at active ⊢
  split
  · rfl
  · next moved => simp [moved, fresh] at active

/-- The cells that the detection of an active record lies in, unless the node stands differently
now or the sensor looks along no axis. -/
def cells (r : SensorRecord) (p : Parameters) (node : Placement) : List Cell :=
  if r.state.isActive && r.placedAs node then
    match (r.key.rotation + node.rotation).facing? with
    | some facing => p.grid.ahead (r.state.origin node.position facing) facing
    | none => []
  else []

theorem cells_of_active {r : SensorRecord} {p : Parameters} {node : Placement} {facing : Facing}
    (active : r.state.isActive) (placed : r.placedAs node)
    (looking : (r.key.rotation + node.rotation).facing? = some facing) :
    r.cells p node = p.grid.ahead (r.state.origin node.position facing) facing := by
  simp [cells, active, placed, looking]

theorem cells_of_inactive {r : SensorRecord} (p : Parameters) (node : Placement)
    (inactive : r.state.isActive = false) : r.cells p node = [] := by
  simp [cells, inactive]

theorem cells_of_moved {r : SensorRecord} (p : Parameters) {node : Placement}
    (moved : ¬r.placedAs node) : r.cells p node = [] := by
  simp [cells, moved]

end SensorRecord

structure Detector where
  capacity : Nat
  records : List SensorRecord := []
  deriving DecidableEq

/-- What an event amounts to: the reduced state and the cells it grew. -/
structure Detection where
  key : SensorKey
  state : SensorState
  grown : List Cell
  deriving DecidableEq

namespace Detector

def find? (d : Detector) (key : SensorKey) : Option SensorRecord :=
  d.records.find? fun r => r.key == key

def state? (d : Detector) (key : SensorKey) : Option SensorState := (d.find? key).map (·.state)

def activeCount (d : Detector) : Nat := d.records.countP (·.state.isActive)

/-- Drops the sensors that no registered node carries; those of a node that moved or turned start
again. -/
def sync (d : Detector) (r : Registry) : Detector :=
  { d with records := d.records.filterMap fun record => (r.carrier? record.key).map record.settle }

/-- Makes room for a new sensor by dropping stale ones, if the pool is full. -/
def makeRoom (d : Detector) (r : Registry) : Detector :=
  if d.capacity ≤ d.records.length then d.sync r else d

def put (d : Detector) (record : SensorRecord) : Detector :=
  { d with records := Keyed.store SensorRecord.key d.records record }

/-- The detector in which `key` has a record for the node as it stands now, and that record. The
stale records of a full pool are gone even if that did not make room. -/
def track (d : Detector) (r : Registry) (key : SensorKey) (node : Placement) :
    Except Fault SensorRecord × Detector :=
  match d.find? key with
  | some record =>
    let settled := record.settle node
    (.ok settled, d.put settled)
  | none =>
    let d := d.makeRoom r
    if d.capacity ≤ d.records.length then
      (.error (.capacityExhausted "debounce records" d.capacity), d)
    else
      let record := .fresh key node
      (.ok record, d.put record)

def growAll (p : Parameters) (factor : Nat → Single) (g : ActivityGrid) (cells : List Cell) :
    ActivityGrid :=
  cells.foldl (fun g c => g.grow p c (factor c.row)) g

/-- Applies an event. The reading of a suppressed sensor is reduced but neither recorded nor grown.
A fault of placement changes nothing. -/
def sense (p : Parameters) (r : Registry) (suppressed : Bool) (d : Detector) (g : ActivityGrid)
    (event : SensorEvent) : Except Fault Detection × Detector × ActivityGrid :=
  match r.find? event.node with
  | none => (.error (.unknownNode event.node), d, g)
  | some node =>
    let total := event.rotation + node.rotation
    match total.facing? with
    | none => (.error (.unsupportedRotation total), d, g)
    | some facing =>
      let state := r.state p node facing event.reading
      let quiet : Detection := ⟨event.key, state, []⟩
      if suppressed then (.ok quiet, d, g)
      else match d.track r event.key node with
        | (.error fault, d) => (.error fault, d, g)
        | (.ok record, d) =>
          if record.state = state then (.ok quiet, d, g)
          else
            let entered := { record with state }
            let cells := entered.cells p node
            (.ok { quiet with grown := cells }, d.put entered,
              growAll p (p.growth event.key.kind) g cells)

def lastingCells (p : Parameters) (r : Registry) (suppressed : SensorKey → Bool)
    (record : SensorRecord) : List Cell :=
  if suppressed record.key then []
  else match r.find? record.key.node with
    | some node => record.cells p node
    | none => []

def trickled (p : Parameters) (r : Registry) (suppressed : SensorKey → Bool) (d : Detector) :
    List Cell :=
  d.records.flatMap (lastingCells p r suppressed)

def trickle (p : Parameters) (r : Registry) (suppressed : SensorKey → Bool) (d : Detector)
    (g : ActivityGrid) : ActivityGrid :=
  d.records.foldl (fun g record =>
    growAll p (p.reinforcement record.key.kind) g (lastingCells p r suppressed record)) g

end Detector

end WildlifeWarning
