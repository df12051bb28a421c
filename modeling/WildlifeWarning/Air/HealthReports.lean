import WildlifeWarning.Air.Carousel
import WildlifeWarning.Page.Report

/-! Reports of hyperactive and inactive sensors, the latest one for each sensor.
One report is on air at a time. Its acknowledgment frees its slot and moves on to the next pending
slot, round the table. -/

namespace WildlifeWarning

structure HealthReport where
  key : SensorKey
  tag : PageTag
  flag : Bool
  deriving DecidableEq

def HealthReport.page (r : HealthReport) (messageId : UInt8) : Payload :=
  (Report.health r.tag r.key r.flag).page messageId

structure AiredReport where
  slot : Nat
  tag : PageTag
  messageId : UInt8
  deriving DecidableEq

structure HealthReports where
  slots : List (Option HealthReport)
  onAir : Option AiredReport := none
  nextId : UInt8 := 0
  deriving DecidableEq

namespace HealthReports

def empty (capacity : Nat) : HealthReports := { slots := List.replicate capacity none }

def capacity (h : HealthReports) : Nat := h.slots.length

def pending (h : HealthReports) : List HealthReport := h.slots.filterMap id

def slot? (h : HealthReports) (i : Nat) : Option HealthReport := (h.slots[i]?).join

def onAirKey? (h : HealthReports) : Option SensorKey := do
  let aired ← h.onAir
  let report ← h.slot? aired.slot
  some report.key

/-- The slot of a sensor, else the first free one. -/
def slotFor? (h : HealthReports) (key : SensorKey) : Option Nat :=
  h.slots.findIdx? (fun s => s.any (·.key == key)) <|> h.slots.findIdx? Option.isNone

/-- The first pending slot from `start` on, round the table. -/
def nextPending? (h : HealthReports) (start : Nat) : Option (Nat × HealthReport) :=
  (List.range h.capacity).findSome? fun step =>
    let i := (start + step) % h.capacity
    (h.slot? i).map fun report => (i, report)

/-- Takes the report on air off it and airs the next one from `start` on. -/
def airFrom (h : HealthReports) (start : Nat) : HealthReports × List Request :=
  let silenced := match h.onAir with
    | some aired => [.cancel aired.tag]
    | none => []
  match h.nextPending? start with
  | none => ({ h with onAir := none }, silenced)
  | some (slot, report) =>
    ({ h with onAir := some ⟨slot, report.tag, h.nextId⟩, nextId := h.nextId + 1 },
      silenced ++ [.broadcast report.tag (report.page h.nextId) 1])

/-- Takes up a report. The report on air is overwritten where it is, unless its page changes. A new
sensor needs a free slot. -/
def report (h : HealthReports) (r : HealthReport) : Except Fault (HealthReports × List Request) :=
  match h.slotFor? r.key with
  | none => .error (.capacityExhausted "sensor error reports" h.capacity)
  | some slot =>
    let stored := { h with slots := h.slots.set slot (some r) }
    .ok (match h.onAir with
      | none => stored.airFrom slot
      | some aired =>
        if aired.slot ≠ slot then (stored, [])
        else if aired.tag = r.tag then
          ({ stored with
              onAir := some { aired with messageId := h.nextId }
              nextId := h.nextId + 1 },
            [.replace r.tag (r.page h.nextId)])
        else stored.airFrom slot)

def acknowledge (h : HealthReports) (a : Acknowledgement) : Option (HealthReports × List Request) :=
  match h.onAir with
  | none => none
  | some aired =>
    if aired.tag = a.page ∧ aired.messageId = a.messageId then
      some ({ h with slots := h.slots.set aired.slot none }.airFrom (aired.slot + 1))
    else none

/-- How the requests went: a page that found no room is not on air. -/
def settle (h : HealthReports) (result : Except Fault Unit) : HealthReports :=
  match result with
  | .ok () => h
  | .error _ => { h with onAir := none }

theorem capacity_airFrom (h : HealthReports) (start : Nat) :
    (h.airFrom start).1.capacity = h.capacity := by
  unfold airFrom
  simp only
  split <;> rfl

end HealthReports

end WildlifeWarning
