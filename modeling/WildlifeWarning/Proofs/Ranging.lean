import Mathlib.Tactic.Linarith
import WildlifeWarning.Proofs.Detector
import WildlifeWarning.Proofs.Geometry.QuarterTurn

/-! The zone that a ranging sensor reports.
It does not depend on which way a deployment is turned and moves outward as the distance grows.
Expected distances and all that they are computed from fit into 32 bits. -/

namespace WildlifeWarning

def fits32? (n : Int) : Option Int := if -2147483648 ≤ n ∧ n ≤ 2147483647 then some n else none

theorem fits32?_eq_some {n : Int} (lower : -2147483648 ≤ n) (upper : n ≤ 2147483647) :
    fits32? n = some n := if_pos ⟨lower, upper⟩

def Offset.along32? (o : Offset) (f : Facing) : Option Int := do
  let x ← fits32? (f.step.1 * o.x.toInt)
  let y ← fits32? (f.step.2 * o.y.toInt)
  fits32? (x + y)

theorem Offset.along_bounds (o : Offset) (f : Facing) :
    -128 ≤ o.along f ∧ o.along f ≤ 128 := by
  have x := toInt_bounds o.x
  have y := toInt_bounds o.y
  cases f <;> simp only [along, Facing.step] <;> omega

theorem Offset.along32?_eq (o : Offset) (f : Facing) : o.along32? f = some (o.along f) := by
  have x := toInt_bounds o.x
  have y := toInt_bounds o.y
  simp only [along32?, along, Option.bind_eq_bind]
  cases f <;> simp (disch := omega) only [Facing.step, fits32?_eq_some, Option.bind_some]

namespace Registry

/-- `Registry.expectedDistance` in 32 bits, every intermediate number included. -/
def expectedDistance32? (r : Registry) (p : Parameters) (node : Placement) (facing : Facing)
    (places : Int8) : Option Int := do
  let ahead ← match r.at? (node.position.stepped facing places) with
    | some n => n.offset.along32? facing
    | none => some 0
  let own ← node.offset.along32? facing
  let apart ← fits32? (ahead - own)
  let correction ← fits32? (apart * p.offsetScaleCm.toNat)
  let nominal ← fits32? (places.toInt * p.nodeSeparationCm.toNat)
  fits32? (nominal + correction)

theorem mul_word_bounds {a : Int} (bounds : -256 ≤ a ∧ a ≤ 256) (word : UInt16) :
    -16777216 ≤ a * word.toNat ∧ a * word.toNat ≤ 16777216 := by
  have small : (word.toNat : Int) < 65536 := by exact_mod_cast word.toNat_lt
  have nonneg : (0 : Int) ≤ word.toNat := Int.natCast_nonneg _
  constructor <;> nlinarith only [bounds.1, bounds.2, small, nonneg]

theorem expectedDistance32?_eq (r : Registry) (p : Parameters) (node : Placement) (facing : Facing)
    (places : Int8) :
    r.expectedDistance32? p node facing places =
      some (r.expectedDistance p node facing places) := by
  have own := node.offset.along_bounds facing
  have range := toInt_bounds places
  have nominal := mul_word_bounds (a := places.toInt) ⟨by omega, by omega⟩ p.nodeSeparationCm
  have known : ∀ ahead : Int, -128 ≤ ahead ∧ ahead ≤ 128 →
      (do
        let apart ← fits32? (ahead - node.offset.along facing)
        let correction ← fits32? (apart * p.offsetScaleCm.toNat)
        let nominal ← fits32? (places.toInt * p.nodeSeparationCm.toNat)
        fits32? (nominal + correction)) =
      some (places.toInt * p.nodeSeparationCm.toNat +
        (ahead - node.offset.along facing) * p.offsetScaleCm.toNat) := by
    intro ahead bounds
    have correction := mul_word_bounds (a := ahead - node.offset.along facing)
      ⟨by omega, by omega⟩ p.offsetScaleCm
    simp (disch := omega) only [Option.bind_eq_bind, fits32?_eq_some, Option.bind_some]
  unfold expectedDistance32? expectedDistance
  cases r.at? (node.position.stepped facing places) with
  | none =>
    simp only [Offset.along32?_eq]
    exact known 0 ⟨by decide, by decide⟩
  | some n =>
    simp only [Offset.along32?_eq]
    exact known _ (n.offset.along_bounds facing)

variable {r : Registry} {p : Parameters} {node : Placement} {f : Facing} {n : Int8}

theorem expectedDistance_turned (turnable : ∀ m ∈ r.nodes, m.Turnable) (own : node ∈ r.nodes)
    (near : 0 ≤ n.toInt ∧ n.toInt ≤ 2) :
    r.turned.expectedDistance p node.turned f.turn n = r.expectedDistance p node f n := by
  have here : node.turned.offset.along f.turn = node.offset.along f :=
    Offset.along_turned (turnable node own).offset f
  have there : r.turned.at? (node.turned.position.stepped f.turn n) =
      (r.at? (node.position.stepped f n)).map Placement.turned := by
    rw [← at?_turned, ← Position.turned_stepped (turnable node own).position near]
    rfl
  simp only [expectedDistance, here, there]
  cases found : r.at? (node.position.stepped f n) with
  | none => rfl
  | some m =>
    have member : m ∈ r.nodes := List.mem_of_find?_eq_some found
    have ahead : m.turned.offset.along f.turn = m.offset.along f :=
      Offset.along_turned (turnable m member).offset f
    simp only [Option.map_some, ahead]

theorem state_turned (turnable : ∀ m ∈ r.nodes, m.Turnable) (own : node ∈ r.nodes)
    (reading : Reading) :
    r.turned.state p node.turned f.turn reading = r.state p node f reading := by
  cases reading with
  | motion detected => rfl
  | ranging distanceCm =>
    have first := expectedDistance_turned (p := p) (f := f) (n := 1) turnable own (by decide)
    have second := expectedDistance_turned (p := p) (f := f) (n := 2) turnable own (by decide)
    simp only [state, zone, first, second]

end Registry

def Zone.reach : Zone → Nat
  | near => 0
  | far => 1
  | none => 2

theorem Registry.reach_zone_mono (r : Registry) (p : Parameters) (node : Placement) (f : Facing)
    {shorter longer : UInt16} (le : shorter ≤ longer) :
    (r.zone p node f shorter).reach ≤ (r.zone p node f longer).reach := by
  have distances : shorter.toNat ≤ longer.toNat := le
  simp only [zone]
  split
  · exact Nat.zero_le _
  · next beyond =>
    have beyond' : ¬(longer.toNat : Int) < r.expectedDistance p node f 1 := by omega
    rw [if_neg beyond']
    split
    · split <;> decide
    · next outside =>
      have outside' : ¬(longer.toNat : Int) < r.expectedDistance p node f 2 := by omega
      rw [if_neg outside']

namespace Detector

variable {p : Parameters} {r : Registry} {d t : Detector}

theorem admits_turned (r : Registry) (key : SensorKey) (keys : t.keys = d.keys)
    (capacity : t.capacity = d.capacity) : t.Admits r.turned key ↔ d.Admits r key := by
  have carried : ∀ k, (r.turned.carrier? k).isSome = (r.carrier? k).isSome := by
    intro k
    rw [Registry.carrier?_turned, Option.isSome_map]
  simp only [Admits, keys_makeRoom, keys, capacity, carried]

theorem sensedState?_turned (turnable : ∀ n ∈ r.nodes, n.Turnable) (suppressed : Bool)
    (keys : t.keys = d.keys) (capacity : t.capacity = d.capacity) (g h : ActivityGrid)
    (event : SensorEvent) :
    sensedState? p r.turned suppressed t h event = sensedState? p r suppressed d g event := by
  have room := admits_turned r event.key keys capacity
  rw [sensedState?_eq, sensedState?_eq, Registry.find?_turned]
  cases found : r.find? event.node with
  | none => rfl
  | some node =>
    have member : node ∈ r.nodes := List.mem_of_find?_eq_some found
    have rotation : event.rotation + node.turned.rotation = event.rotation + node.rotation + 2 := by
      change event.rotation + (node.rotation + 2) = _
      grind
    simp only [Option.map_some, Option.bind_some, rotation, Facing.facing?_add_two]
    cases (event.rotation + node.rotation).facing? with
    | none => rfl
    | some facing =>
      simp only [Option.map_some, Option.bind_some, room, Registry.state_turned turnable member]

theorem reach_mono {node : NodeId} {rotation : Octant} {shorter longer : UInt16}
    (le : shorter ≤ longer) {s s' : Bool} {g h : ActivityGrid} {first second : Zone}
    (sensed : sensedState? p r s d g ⟨node, rotation, .ranging shorter⟩ = some (.ranging first))
    (sensed' : sensedState? p r s' t h ⟨node, rotation, .ranging longer⟩ = some (.ranging second)) :
    first.reach ≤ second.reach := by
  rw [sensedState?_eq] at sensed sensed'
  obtain ⟨here, found, sensed⟩ := Option.bind_eq_some_iff.1 sensed
  obtain ⟨there, found', sensed'⟩ := Option.bind_eq_some_iff.1 sensed'
  obtain rfl : here = there := Option.some.inj (found.symm.trans found')
  obtain ⟨facing, looking, sensed⟩ := Option.bind_eq_some_iff.1 sensed
  obtain ⟨facing', looking', sensed'⟩ := Option.bind_eq_some_iff.1 sensed'
  obtain rfl : facing = facing' := Option.some.inj (looking.symm.trans looking')
  simp only [Option.ite_none_right_eq_some, Option.some.injEq, Registry.state,
    SensorState.ranging.injEq] at sensed sensed'
  rw [← sensed.2, ← sensed'.2]
  exact r.reach_zone_mono p here facing le

/-- A quarter turn of all nodes leaves the state that an event is reduced to, whatever else the
detectors on the two sides have on record of the same sensors. On both sides each expected distance
can be computed in 32 bits. A longer distance is not in a nearer zone. -/
theorem zones_turn (p : Parameters) (r : Registry) (turnable : ∀ n ∈ r.nodes, n.Turnable) :
    (∀ (suppressed : Bool) (d t : Detector) (g h : ActivityGrid) (event : SensorEvent),
      t.keys = d.keys → t.capacity = d.capacity →
      sensedState? p r.turned suppressed t h event = sensedState? p r suppressed d g event) ∧
    (∀ (node : Placement) (facing : Facing) (places : Int8),
      r.expectedDistance32? p node facing places =
        some (r.expectedDistance p node facing places) ∧
      r.turned.expectedDistance32? p node.turned facing.turn places =
        some (r.turned.expectedDistance p node.turned facing.turn places)) ∧
    ∀ (node : NodeId) (rotation : Octant) (shorter longer : UInt16), shorter ≤ longer →
      ∀ (s s' : Bool) (d t : Detector) (g h : ActivityGrid) (first second : Zone),
        sensedState? p r s d g ⟨node, rotation, .ranging shorter⟩ = some (.ranging first) →
        sensedState? p r s' t h ⟨node, rotation, .ranging longer⟩ = some (.ranging second) →
        first.reach ≤ second.reach := by
  refine ⟨?_, fun node facing places => ⟨?_, ?_⟩, ?_⟩
  · intro suppressed d t g h event keys capacity
    exact sensedState?_turned turnable suppressed keys capacity g h event
  · exact r.expectedDistance32?_eq p node facing places
  · exact r.turned.expectedDistance32?_eq p node.turned facing.turn places
  · intro node rotation shorter longer le s s' d t g h first second sensed sensed'
    exact reach_mono le sensed sensed'

/-- Two nodes off their places, and nobody two places ahead of the first. -/
def offPlace : Registry where
  capacity := 2
  nodes := [⟨1, ⟨-125, 0⟩, ⟨-3, 10⟩, Facing.up.octant, .pirLidar⟩,
    ⟨2, ⟨-125, 1⟩, ⟨127, -5⟩, Facing.down.octant, .pirPir⟩]

/-- Both detectors are full and remember the sensor with another state and placement. -/
theorem zones_turn_offPlace :
    let key : SensorKey := ⟨1, Facing.up.octant, .ranging⟩
    let d : Detector := { capacity := 1, records := [⟨key, .ranging .near, ⟨-125, 0⟩, 0⟩] }
    let t : Detector := { capacity := 1, records := [⟨key, .ranging .none, ⟨7, 7⟩, 2⟩] }
    let g : ActivityGrid := .atFloor {}
    let seen (distanceCm : UInt16) : SensorEvent := ⟨1, Facing.up.octant, .ranging distanceCm⟩
    (∀ n ∈ offPlace.nodes, n.Turnable) ∧ t.keys = d.keys ∧ t.capacity = d.capacity ∧
      sensedState? {} offPlace false d g (seen 425) = some (.ranging .far) ∧
      sensedState? {} offPlace.turned false t g (seen 425) = some (.ranging .far) ∧
      sensedState? {} offPlace false t g (seen 424) = some (.ranging .near) ∧
      (424 : UInt16) ≤ 425 ∧ Zone.near.reach ≤ Zone.far.reach := by
  intro key d t g seen
  have turnable : ∀ n ∈ offPlace.nodes, n.Turnable := by
    intro n member
    rcases List.mem_cons.1 member with rfl | member
    · exact ⟨by unfold Position.Inner; decide, by decide⟩
    · obtain rfl := List.mem_singleton.1 member
      exact ⟨by unfold Position.Inner; decide, by decide⟩
  have far : sensedState? {} offPlace false d g (seen 425) = some (.ranging .far) := by
    decide +kernel
  have near : sensedState? {} offPlace false t g (seen 424) = some (.ranging .near) := by
    decide +kernel
  have keys : t.keys = d.keys := rfl
  obtain ⟨turns, -, outward⟩ := zones_turn {} offPlace turnable
  refine ⟨turnable, keys, rfl, far, ?_, near, by decide, ?_⟩
  · exact (turns false d t g g (seen 425) keys rfl).trans far
  · exact outward 1 Facing.up.octant 424 425 (by decide) false false t d g g .near .far near far

end Detector

end WildlifeWarning
