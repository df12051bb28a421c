import WildlifeWarning.Number.Binary
import WildlifeWarning.Fault

/-! Numeric constants of growth, decay, alerting and health, and which sets of them are usable. -/

namespace WildlifeWarning

/-! The tuned values, each under the name of what it tunes. A fresh set of parameters takes all of
them, a document that leaves fields out those of the fields left out. -/

namespace Tuned

def nodes : UInt8 := 3
def grid : Layout := ⟨nodes, nodes⟩
def activityMin : Single := 1
def activityMax : Single := 12
def one : Single := 1
def motionWeight : Single := 3
def rangingWeight : Single := 3.5
def roadProximity : List Single := [1.4, 1.2, 1]
def motionTrickle : Single := 1.003
def rangingTrickle : Single := 1.0035
def roadTrickle : List Single := [1.004, 1.002, 1]
def decayFactor : Single := 0.99
def possibleRoadside : Single := 3
def possibleInland : Single := 4
def detectionRoadside : Single := 6
def detectionInland : Single := 7
def concernDwell : Nat := 30
def alarmDwell : Nat := 60
def reinforcementPeriod : Nat := 10
def hyperactivityWindow : Nat := 120
def nodeSeparationCm : UInt16 := 500
def offsetScaleCm : UInt16 := 5

end Tuned

structure Parameters where
  grid : Layout := Tuned.grid
  /-- Floor that every cell decays toward. -/
  activityMin : Single := Tuned.activityMin
  activityMax : Single := Tuned.activityMax
  commonWeight : Single := Tuned.one
  motionWeight : Single := Tuned.motionWeight
  rangingWeight : Single := Tuned.rangingWeight
  /-- Growth by the cell's row from the road; rows past the end take the last entry. -/
  roadProximity : List Single := Tuned.roadProximity
  commonTrickle : Single := Tuned.one
  motionTrickle : Single := Tuned.motionTrickle
  rangingTrickle : Single := Tuned.rangingTrickle
  roadTrickle : List Single := Tuned.roadTrickle
  /-- What a second leaves of a cell above the floor. -/
  decayFactor : Single := Tuned.decayFactor
  possibleRoadside : Single := Tuned.possibleRoadside
  possibleInland : Single := Tuned.possibleInland
  detectionRoadside : Single := Tuned.detectionRoadside
  detectionInland : Single := Tuned.detectionInland
  /-- Seconds that an indicator shows concern at least. -/
  concernDwell : Nat := Tuned.concernDwell
  alarmDwell : Nat := Tuned.alarmDwell
  reinforcementPeriod : Nat := Tuned.reinforcementPeriod
  /-- Events of one sensor whose spacing is averaged. -/
  hyperactivityWindow : Nat := Tuned.hyperactivityWindow
  hyperactivityMinutes : Single := Tuned.one
  nodeSeparationCm : UInt16 := Tuned.nodeSeparationCm
  offsetScaleCm : UInt16 := Tuned.offsetScaleCm
  deriving DecidableEq

namespace Parameters

instance : Inhabited Parameters := ⟨{}⟩

/-- The entry for a row: its own, else the last one, else one. -/
def atRow (table : List Single) (row : Nat) : Single :=
  (table[row]? <|> table.getLast?).getD 1

/-- What a new detection multiplies a cell of this row by. -/
def growth (p : Parameters) (kind : SensorKind) (row : Nat) : Single :=
  let weight := match kind with
    | .motion => p.motionWeight
    | .ranging => p.rangingWeight
  p.commonWeight * weight * atRow p.roadProximity row

/-- What each second of a lasting detection multiplies a cell of this row by. -/
def reinforcement (p : Parameters) (kind : SensorKind) (row : Nat) : Single :=
  let trickle := match kind with
    | .motion => p.motionTrickle
    | .ranging => p.rangingTrickle
  p.commonTrickle * trickle * atRow p.roadTrickle row

def weights (p : Parameters) : List Single :=
  [p.commonWeight, p.motionWeight, p.rangingWeight, p.commonTrickle, p.motionTrickle,
    p.rangingTrickle] ++ p.roadProximity ++ p.roadTrickle

/-- The first cause, in this order, for which the set is unusable. -/
def misconfiguration? (p : Parameters) : Option Misconfiguration :=
  if p.grid.nodesX < 2 ∨ p.grid.nodesY < 2 ∨ p.grid.nodesX > 15 ∨ p.grid.nodesY > 15 then
    some .nodesPerAxis
  else if ¬(p.activityMin > 0 ∧ p.activityMin < p.activityMax) then some .activityBounds
  else if ¬(p.decayFactor > 0 ∧ p.decayFactor ≤ 1) then some .decayFactor
  else if p.roadProximity.isEmpty ∨ p.roadTrickle.isEmpty then some .emptyRoadTable
  else if p.weights.any (fun w => ¬(w > 0)) then some .weight
  else if p.possibleRoadside > p.detectionRoadside ∨ p.possibleInland > p.detectionInland then
    some .thresholdOrder
  else if p.hyperactivityWindow < 2 then some .hyperactivityWindow
  else if p.reinforcementPeriod = 0 then some .reinforcementPeriod
  else none

def validate (p : Parameters) : Except Fault Unit :=
  match p.misconfiguration? with
  | some cause => .error (.invalidConfiguration cause)
  | none => .ok ()

theorem validate_eq_ok_iff {p : Parameters} : p.validate = .ok () ↔ p.misconfiguration? = none := by
  unfold validate
  split <;> simp_all

theorem misconfiguration?_default : ({} : Parameters).misconfiguration? = none := by
  decide +kernel

end Parameters

end WildlifeWarning
