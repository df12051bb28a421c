import WildlifeWarning.Proofs.Air.Broadcast
import WildlifeWarning.Proofs.Gateway.Run

/-! Rejected inputs leave no trace.
What cannot be placed is dropped, what finds a full pool is a fault, and either way all is as if it
had never come in: a run may leave it out. -/

namespace WildlifeWarning

open Step

namespace Carousel

theorem serve_full {c : Carousel} {replicas : Nat} (tag : PageTag) (payload : Payload)
    (full : c.slots.countP Option.isNone < replicas) :
    c.serve [.broadcast tag payload replicas] =
      (.error (.capacityExhausted "page pool" c.capacity), c) := by
  have all := List.length_eq_countP_add_countP Option.isNone (l := c.slots)
  have held : c.occupied = c.slots.countP fun slot => ¬slot.isNone := by
    rw [occupied, copies, List.length_filterMap_eq_countP]
    exact List.countP_congr fun slot _ => by cases slot <;> simp
  have free : c.capacity - c.occupied < replicas := by
    rw [capacity, held]
    omega
  have refused : c.add tag payload replicas = .error (.capacityExhausted "page pool" c.capacity) :=
    if_pos free
  simp only [serve, handle, refused]

end Carousel

theorem EchoBoard.publish_full {κ : Type} [DecidableEq κ] {b : EchoBoard κ} {key : κ}
    (build : UInt8 → Payload) (new : b.find? key = none) (full : b.capacity ≤ b.slots.length) :
    b.publish key build = .error (.capacityExhausted b.name b.capacity) :=
  if_pos ⟨by rw [new]; rfl, full⟩

theorem HealthReports.report_full {h : HealthReports} {r : HealthReport}
    (full : ∀ slot ∈ h.slots, ∃ q, slot = some q ∧ q.key ≠ r.key) :
    h.report r = .error (.capacityExhausted "sensor error reports" h.capacity) := by
  have new : h.slots.findIdx? (fun s => s.any (·.key == r.key)) = none := by
    refine List.findIdx?_eq_none_iff.2 fun slot member => ?_
    obtain ⟨q, rfl, other⟩ := full slot member
    simpa using other
  have occupied : h.slots.findIdx? Option.isNone = none := by
    refine List.findIdx?_eq_none_iff.2 fun slot member => ?_
    obtain ⟨q, rfl, -⟩ := full slot member
    rfl
  have nowhere : h.slotFor? r.key = none := by
    rw [slotFor?, new, occupied]
    rfl
  simp only [report, nowhere]

namespace Airtime

/-- The step finds the pool that it needs full, and ends in the fault. -/
inductive Rejects (air : Airtime) : Step Airtime Unit → Fault → Prop where
  | page {tag : PageTag} {payload : Payload} {replicas : Nat}
      (full : air.carousel.slots.countP Option.isNone < replicas) :
      Rejects air (transmit [.broadcast tag payload replicas])
        (.capacityExhausted "page pool" air.carousel.capacity)
  | command {c : IndicatorCommand} (new : air.indicatorEcho.find? c.node = none)
      (full : air.indicatorEcho.capacity ≤ air.indicatorEcho.slots.length) :
      Rejects air (echoCommand c)
        (.capacityExhausted air.indicatorEcho.name air.indicatorEcho.capacity)
  | cell {c : Cell} {value : Single} {class_ : Classification}
      (new : air.activityEcho.find? c.code = none)
      (full : air.activityEcho.capacity ≤ air.activityEcho.slots.length) :
      Rejects air (echo c value class_)
        (.capacityExhausted air.activityEcho.name air.activityEcho.capacity)
  | health {r : HealthReport}
      (full : ∀ slot ∈ air.healthReports.slots, ∃ q, slot = some q ∧ q.key ≠ r.key) :
      Rejects air (reportHealth r)
        (.capacityExhausted "sensor error reports" air.healthReports.capacity)

variable {air : Airtime} {step : Step Airtime Unit} {fault : Fault}

theorem after_rejected (rejected : air.Rejects step fault) :
    step.after air = (.error fault, air) := by
  cases rejected with
  | page full =>
    simp only [transmit, after_ofAfter, Carousel.serve_full _ _ full]
  | command new full =>
    simp only [echoCommand, after_bind, after_get, EchoBoard.publish_full _ new full, after_throw]
  | cell new full =>
    simp only [echo, after_bind, after_get, EchoBoard.publish_full _ new full, after_throw]
  | health full =>
    simp only [reportHealth, after_bind, after_get, HealthReports.report_full full, after_throw]

end Airtime

namespace Gateway

/-- The stimulus finds nothing that it could change, and ends in the result. -/
inductive Rejects (g : Gateway) : Stimulus → Except Fault Unit → Prop where
  | noNode {s : Stimulus} {p : Placement} (asked : s.placement? = some p) (zero : p.node = 0) :
      Rejects g s (.ok ())
  | otherPage {payload : Payload} (other : payload.byte 0 ≠ PageTag.position.code) :
      Rejects g (.placementPage payload) (.ok ())
  | noRoom {s : Stimulus} {p : Placement} (asked : s.placement? = some p) (named : p.node ≠ 0)
      (new : g.registry.find? p.node = none)
      (full : g.registry.capacity ≤ g.registry.nodes.length) :
      Rejects g s (.error (.capacityExhausted "topology registry" g.registry.capacity))
  | unregistered {event : SensorEvent} (settled : g.registry.changed = false)
      (unknown : g.registry.find? event.node = none) : Rejects g (.sensor event) (.ok ())
  | askew {event : SensorEvent} {node : Placement} (settled : g.registry.changed = false)
      (standing : g.registry.find? event.node = some node)
      (askew : (event.rotation + node.rotation).facing? = none) :
      Rejects g (.sensor event) (.ok ())

variable {g : Gateway} {s : Stimulus} {p : Placement} {event : SensorEvent} {fault : Fault}
  {result : Except Fault Unit}

theorem after_on_placement (asked : s.placement? = some p) (g : Gateway) :
    (on s).after g = (place p).after g := by
  cases s with
  | placement q =>
    obtain rfl := Option.some.inj asked
    rfl
  | placementPage payload =>
    simp only [Stimulus.placement?] at asked
    cases read : Placement.ofPage payload with
    | error fault => simp [read, Except.toOption] at asked
    | ok q =>
      rw [read] at asked
      obtain rfl := Option.some.inj asked
      simp only [on, placePage, read]
  | _ => contradiction

theorem after_place_refused (refused : g.registry.accept p = .error fault) :
    (place p).after g = (if fault.isFatal then .error fault else .ok (), g) := by
  unfold place
  simp only [after_bind, after_get, refused]
  split <;> rfl

theorem after_sense_refused (settled : g.registry.changed = false)
    (harmless : fault.isFatal = false)
    (refused : ∀ suppressed,
      Detector.sense g.parameters g.registry suppressed g.detector g.grid event =
        (.error fault, g.detector, g.grid)) : (sense event).after g = (.ok (), g) := by
  have synced : sync.after g = (.ok (), g) := by
    simp only [sync, after_bind, after_get, settled]
    rfl
  have detected : (detect event).after g = (.ok none, g) := by
    simp only [detect, after_bind, after_get, refused, after_set, harmless]
    rfl
  simp only [sense, after_bind, synced, detected, after_pure]

theorem after_rejected (rejected : g.Rejects s result) : (on s).after g = (result, g) := by
  cases rejected with
  | noNode asked zero =>
    rw [after_on_placement asked, after_place_refused (Registry.accept_zero _ zero)]
    rfl
  | @otherPage payload other =>
    have unread : requireTag payload .position =
        .error (.malformedPage .position ⟨payload.byte 0⟩) := if_neg other
    simp only [on, placePage, Placement.ofPage, unread]
    rfl
  | noRoom asked named new full =>
    have refused : g.registry.accept _ =
        .error (.capacityExhausted "topology registry" g.registry.capacity) :=
      (if_neg named).trans (if_pos ⟨by rw [new]; rfl, full⟩)
    rw [after_on_placement asked, after_place_refused refused]
    rfl
  | @unregistered event settled unknown =>
    have harmless : (Fault.unknownNode event.node).isFatal = false := rfl
    refine after_sense_refused settled harmless fun suppressed => ?_
    simp only [Detector.sense, unknown]
  | @askew event node settled standing askew =>
    have harmless : (Fault.unsupportedRotation (event.rotation + node.rotation)).isFatal = false :=
      rfl
    refine after_sense_refused settled harmless fun suppressed => ?_
    simp only [Detector.sense, standing, askew]

/-- Where an input is rejected, the gateway is after it what it was before, so the input may be left
out of a run. Every other pool that is full ends the step that needs it and leaves the step's state,
the carousel included. -/
theorem rejected_without_trace (g : Gateway) :
    (∀ s result, g.Rejects s result → (on s).after g = (result, g)) ∧
    (∀ earlier s later result, (g.served earlier).Rejects s result →
      g.served (earlier ++ .stimulus s :: later) = g.served (earlier ++ later)) ∧
    (∀ (air : Airtime) step fault, air.Rejects step fault → step.after air = (.error fault, air)) ∧
    (∀ (κ : Type) [DecidableEq κ] (b : Broadcast κ) key build, b.board.find? key = none →
      b.board.capacity ≤ b.board.slots.length →
      b.board.publish key build = .error (.capacityExhausted b.board.name b.board.capacity) ∧
        ∀ anew, b.after anew (.publish key build) = b) ∧
    (∀ key, g.health.find? key = none → g.health.capacity ≤ g.health.records.length →
      (note key).after g =
        (.error (.capacityExhausted "sensor activity records" g.health.capacity), g)) := by
  refine ⟨fun s result => after_rejected, fun earlier s later result rejected => ?_,
    fun air step fault => Airtime.after_rejected,
    fun κ _ b key build new full => ?_, fun key new full => ?_⟩
  · have still : (g.served earlier).take (.stimulus s) = g.served earlier :=
      congrArg Prod.snd (after_rejected rejected)
    rw [served, inTurn_append, served, inTurn_append]
    exact congrArg (inTurn take · later) still
  · have refused := EchoBoard.publish_full build new full
    exact ⟨refused, fun anew => by simp only [Broadcast.after, refused]⟩
  · have refused : g.health.record g.parameters key g.minute =
        .error (.capacityExhausted "sensor activity records" g.health.capacity) :=
      if_pos ⟨by rw [new]; rfl, full⟩
    simp only [note, after_bind, after_get, refused, after_throw]

/-- A registry for one node, which reported: there is no room for another, and what that sends or
what no node could send is dropped. -/
theorem rejected_without_trace_watched :
    let g := (fresh {} { nodeCapacity := 1 } {}).after [watch, motion true]
    let other : Stimulus := .placement ⟨2, ⟨0, 0⟩, .zero, Facing.up.octant, .pirPir⟩
    let unheard : Stimulus := .sensor ⟨2, Facing.up.octant, .motion true⟩
    let askew : Stimulus := .sensor ⟨1, Facing.up.octant + 1, .motion true⟩
    let sample : Stimulus := .placementPage ((Report.motion 1 Facing.up.octant true).page 0)
    g.Rejects other (.error (.capacityExhausted "topology registry" 1)) ∧
    g.Rejects unheard (.ok ()) ∧ g.Rejects askew (.ok ()) ∧ g.Rejects sample (.ok ()) ∧
    (on other).after g = (.error (.capacityExhausted "topology registry" 1), g) ∧
    (on unheard).after g = (.ok (), g) ∧ (on askew).after g = (.ok (), g) ∧
    (on sample).after g = (.ok (), g) := by
  intro g other unheard askew sample
  have settled : g.registry.changed = false := by decide +kernel
  have capacity : g.registry.capacity = 1 := by decide +kernel
  have one : g.registry.capacity ≤ g.registry.nodes.length := by decide +kernel
  have new : g.registry.find? 2 = none := by decide +kernel
  have full : g.Rejects other (.error (.capacityExhausted "topology registry" 1)) := by
    have rejected : g.Rejects other _ := .noRoom rfl (by decide) new one
    rwa [capacity] at rejected
  have unknown : g.Rejects unheard (.ok ()) := .unregistered settled (by decide +kernel)
  have standing : g.registry.find? 1 = some ⟨1, ⟨0, 1⟩, .zero, Facing.down.octant, .pirPir⟩ := by
    decide +kernel
  have slanting : g.Rejects askew (.ok ()) := .askew settled standing (by decide)
  have foreign : g.Rejects sample (.ok ()) := .otherPage (by decide)
  obtain ⟨rejected, -⟩ := rejected_without_trace g
  exact ⟨full, unknown, slanting, foreign, rejected _ _ full, rejected _ _ unknown,
    rejected _ _ slanting, rejected _ _ foreign⟩

end Gateway

end WildlifeWarning
