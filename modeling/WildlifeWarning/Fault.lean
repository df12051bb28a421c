import WildlifeWarning.Geometry.Layout
import WildlifeWarning.Node
import WildlifeWarning.Page

/-! Why the gateway refuses an input or a configuration, and the wording of it.
A pool without room is fatal; every other fault drops one input. -/

namespace WildlifeWarning

inductive Misconfiguration where
  | nodesPerAxis
  | activityBounds
  | decayFactor
  | emptyRoadTable
  | weight
  | thresholdOrder
  | hyperactivityWindow
  | reinforcementPeriod
  | alertingCells (cols rows : Nat)
  | rotation (value : Nat)
  deriving DecidableEq

def Misconfiguration.message : Misconfiguration → String
  | nodesPerAxis => "grid must have between 2 and 15 nodes per axis"
  | activityBounds => "av_min must be positive and below av_max"
  | decayFactor => "decay_factor must lie in (0, 1]"
  | emptyRoadTable => "road proximity tables must not be empty"
  | weight => "weights must be positive"
  | thresholdOrder => "possible threshold must not exceed detection threshold"
  | hyperactivityWindow => "hyperactivity_window must hold at least 2 events"
  | reinforcementPeriod => "reinforcement_period_s must be at least 1"
  | alertingCells cols rows =>
    "alerting needs a 2x2 activity grid, got " ++ toString cols ++ "x" ++ toString rows
  | rotation value => "rotation " ++ toString value ++ " is not an octant"

inductive Fault where
  | capacityExhausted (pool : String) (capacity : Nat)
  | unknownNode (node : NodeId)
  | unsupportedRotation (rotation : Octant)
  | malformedPage (expected found : PageTag)
  | invalidConfiguration (cause : Misconfiguration)
  deriving DecidableEq

namespace Fault

def message : Fault → String
  | capacityExhausted pool capacity =>
    "Capacity exhausted in " ++ pool ++ " (capacity " ++ toString capacity ++ ")"
  | unknownNode node => "Unknown node " ++ toString node.toNat
  | unsupportedRotation rotation => "Unsupported rotation " ++ rotation.text
  | malformedPage expected found =>
    "Malformed page " ++ expected.text ++ ": unexpected tag " ++ found.text
  | invalidConfiguration cause => "Invalid configuration: " ++ cause.message

/-- The gateway must halt. -/
def isFatal : Fault → Bool
  | capacityExhausted .. => true
  | _ => false

end Fault

def Octant.ofByte (byte : UInt8) : Except Fault Octant :=
  match Octant.ofNat? byte.toNat with
  | some o => .ok o
  | none => .error (.invalidConfiguration (.rotation byte.toNat))

end WildlifeWarning
