import WildlifeWarning.Fault
import WildlifeWarning.Keyed

/-! The registry of provisioned nodes: the latest placement of each node, nodes in the order in
which they were first accepted. -/

namespace WildlifeWarning

structure Registry where
  capacity : Nat
  nodes : List Placement := []
  /-- A placement was stored since the flag was last cleared. -/
  changed : Bool := false
  deriving DecidableEq

namespace Registry

def find? (r : Registry) (node : NodeId) : Option Placement :=
  r.nodes.find? fun p => p.node == node

/-- The earliest accepted of the nodes at a place. -/
def at? (r : Registry) (position : Position) : Option Placement :=
  r.nodes.find? fun p => p.position == position

/-- The latest placement of a node wins; a new node needs room. -/
def accept (r : Registry) (p : Placement) : Except Fault Registry :=
  if p.node = 0 then .error (.unknownNode 0)
  else if (r.find? p.node).isNone ∧ r.capacity ≤ r.nodes.length then
    .error (.capacityExhausted "topology registry" r.capacity)
  else .ok { r with nodes := Keyed.store Placement.node r.nodes p, changed := true }

def unchanged (r : Registry) : Registry := { r with changed := false }

def carrier? (r : Registry) (key : SensorKey) : Option Placement :=
  (r.find? key.node).filter fun node => key ∈ node.sensors

def sensors (r : Registry) : List SensorKey := r.nodes.flatMap Placement.sensors

theorem accept_zero (r : Registry) {p : Placement} (h : p.node = 0) :
    r.accept p = .error (.unknownNode 0) := if_pos h

end Registry

end WildlifeWarning
