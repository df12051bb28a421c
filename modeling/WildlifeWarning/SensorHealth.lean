import WildlifeWarning.Registry
import WildlifeWarning.Parameters

/-! Which sensors report too often and which not at all.
A sensor is hyperactive when its latest events lie closer together, on average, than the configured
minutes; it is inactive when a registered node carries it and its mount was silent for a day. Every
evaluation returns the flags that it raised or cleared. -/

namespace WildlifeWarning

inductive Condition where
  | hyperactive
  | inactive
  deriving DecidableEq, Repr

/-- A flag raised (`active`) or cleared. -/
structure HealthChange where
  key : SensorKey
  condition : Condition
  active : Bool
  deriving DecidableEq

/-- The minutes of a sensor's latest events, in a ring. -/
structure EventRecord where
  key : SensorKey
  minutes : List UInt32
  /-- The place that is written next. -/
  next : Nat := 0
  /-- Places that were written. -/
  filled : Nat := 0
  hyperactive : Bool := false
  deriving DecidableEq

namespace EventRecord

/-- Events whose spacing is averaged; at least two. -/
def window (p : Parameters) : Nat := max 2 p.hyperactivityWindow

def blank (p : Parameters) (key : SensorKey) : EventRecord :=
  { key, minutes := List.replicate (window p) 0 }

/-- Once the ring is full, the newest event takes the place of the oldest. -/
def push (minute : UInt32) (e : EventRecord) : EventRecord :=
  { e with
    minutes := e.minutes.set e.next minute
    next := (e.next + 1) % e.minutes.length
    filled := min (e.filled + 1) e.minutes.length }

def newest (e : EventRecord) : Nat := (e.next + e.minutes.length - 1) % e.minutes.length

/-- Minutes between events, on average over the ring; none before it is full. -/
def averageGap? (e : EventRecord) : Option Single :=
  if e.filled < e.minutes.length then none
  else do
    let oldest ← e.minutes[e.next]?
    let newest ← e.minutes[e.newest]?
    some (Binary.ofNat (newest.toNat - oldest.toNat) / Binary.ofNat e.minutes.length)

def isCrowded (p : Parameters) (e : EventRecord) : Bool :=
  match e.averageGap? with
  | some spacing => spacing < p.hyperactivityMinutes
  | none => false

end EventRecord

structure SensorHealth where
  capacity : Nat
  records : List EventRecord := []
  /-- Mounts that reported since the last daily evaluation. -/
  seen : List Mount := []
  /-- Sensors flagged as silent, in the order of their mounts, one for each mount. -/
  silent : List SensorKey := []
  deriving DecidableEq

namespace SensorHealth

/-- Inserts a key before the first key of a later mount. -/
def insertSilent (key : SensorKey) : List SensorKey → List SensorKey
  | [] => [key]
  | k :: rest => if key.mount.before k.mount then key :: k :: rest else k :: insertSilent key rest

def find? (h : SensorHealth) (key : SensorKey) : Option EventRecord :=
  h.records.find? fun r => r.key == key

def isHyperactive (h : SensorHealth) (key : SensorKey) : Bool :=
  h.records.any fun r => r.key == key && r.hyperactive

def isInactive (h : SensorHealth) (key : SensorKey) : Bool :=
  h.silent.any fun k => k.mount == key.mount

/-- The flags now raised: the hyperactive sensors by their first event, then the silent ones by
mount. -/
def flagged (h : SensorHealth) : List HealthChange :=
  (h.records.filter (·.hyperactive)).map (⟨·.key, .hyperactive, true⟩) ++
    h.silent.map (⟨·, .inactive, true⟩)

def recordOf (p : Parameters) (h : SensorHealth) (key : SensorKey) : EventRecord :=
  (h.find? key).getD (.blank p key)

/-- Notes an event; a silent mount is silent no more. A new sensor needs room. -/
def record (p : Parameters) (h : SensorHealth) (key : SensorKey) (minute : UInt32) :
    Except Fault (Option HealthChange × SensorHealth) :=
  if (h.find? key).isNone ∧ h.capacity ≤ h.records.length then
    .error (.capacityExhausted "sensor activity records" h.capacity)
  else
    let cleared := (h.silent.find? fun k => k.mount == key.mount).map (⟨·, .inactive, false⟩)
    .ok (cleared, { h with
      records := Keyed.store EventRecord.key h.records ((h.recordOf p key).push minute)
      seen := h.seen.insert key.mount
      silent := h.silent.filter fun k => k.mount ≠ key.mount })

def evaluateHyperactivity (p : Parameters) (h : SensorHealth) : List HealthChange × SensorHealth :=
  (h.records.filterMap fun r =>
      let crowded := r.isCrowded p
      if crowded == r.hyperactive then none else some ⟨r.key, .hyperactive, crowded⟩,
    { h with records := h.records.map fun r => { r with hyperactive := r.isCrowded p } })

/-- The sensors that are to be flagged as silent: not heard of today and not flagged yet, one for
each mount. -/
def newlySilent (seen : List Mount) (silent : List SensorKey) : List SensorKey → List SensorKey
  | [] => []
  | key :: rest =>
    if key.mount ∈ seen ∨ key.mount ∈ silent.map SensorKey.mount then newlySilent seen silent rest
    else key :: newlySilent seen (key :: silent) rest

/-- Flags the carried sensors that were silent all day and starts a new day. -/
def evaluateInactivity (r : Registry) (h : SensorHealth) : List HealthChange × SensorHealth :=
  let flagged := newlySilent h.seen h.silent r.sensors
  (flagged.map (⟨·, .inactive, true⟩),
    { h with
      seen := []
      silent := flagged.foldl (fun silent key => insertSilent key silent) h.silent })

/-- Forgets all sensors that no registered node carries, and clears their flags. -/
def sync (r : Registry) (h : SensorHealth) : List HealthChange × SensorHealth :=
  let carried := r.sensors
  let mounts := carried.map SensorKey.mount
  let calmed := h.records.filter fun e => e.key ∉ carried && e.hyperactive
  let heard := h.silent.filter fun k => k.mount ∉ mounts
  (calmed.map (⟨·.key, .hyperactive, false⟩) ++ heard.map (⟨·, .inactive, false⟩),
    { h with
      records := h.records.filter fun e => e.key ∈ carried
      seen := h.seen.filter fun m => m ∈ mounts
      silent := h.silent.filter fun k => k.mount ∈ mounts })

end SensorHealth

end WildlifeWarning
