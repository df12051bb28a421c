import WildlifeWarning.Registry
import WildlifeWarning.Proofs.Geometry.Ahead

/-! A quarter turn of a deployment about the middle of the grid.
It takes steps to steps and offsets along a facing to offsets along the turned one, and every
look-up in the registry to the look-up of what was turned. -/

namespace WildlifeWarning

theorem toInt_neg {n : Int8} (above : -127 ≤ n.toInt) : (-n).toInt = -n.toInt := by
  have small := toInt_bounds n
  rw [Int8.toInt_neg, Int.bmod_def]
  omega

namespace Position

def turned (p : Position) : Position := ⟨p.y, -p.x⟩

@[simp] theorem turned_x (p : Position) : p.turned.x = p.y := rfl

@[simp] theorem turned_y (p : Position) : p.turned.y = -p.x := rfl

theorem turned_inj {p q : Position} : p.turned = q.turned ↔ p = q := by
  constructor
  · intro same
    obtain ⟨y, x⟩ := Position.mk.inj same
    exact Position.ext (Int8.neg_inj.1 x) y
  · rintro rfl
    rfl

def Inner (p : Position) : Prop :=
  (-125 ≤ p.x.toInt ∧ p.x.toInt ≤ 125) ∧ -125 ≤ p.y.toInt ∧ p.y.toInt ≤ 125

variable {p : Position} {f : Facing} {n : Int8}

theorem Inner.turned (inner : p.Inner) : p.turned.Inner := by
  obtain ⟨x, y⟩ := inner
  refine ⟨y, ?_⟩
  rw [turned_y, toInt_neg (by omega)]
  omega

theorem Inner.hasPlace (inner : p.Inner) (near : 0 ≤ n.toInt ∧ n.toInt ≤ 2) : p.HasPlace f n := by
  obtain ⟨x, y⟩ := inner
  unfold HasPlace
  cases f <;> simp only [Facing.step] <;> omega

theorem turned_stepped (inner : p.Inner) (near : 0 ≤ n.toInt ∧ n.toInt ≤ 2) :
    p.turned.stepped f.turn n = (p.stepped f n).turned := by
  have place : p.HasPlace f n := inner.hasPlace near
  have turnedPlace : p.turned.HasPlace f.turn n := inner.turned.hasPlace near
  have range := inner.1
  have x : (p.turned.stepped f.turn n).x.toInt = (p.stepped f n).y.toInt := by
    rw [turnedPlace.stepped_x near.1, place.stepped_y near.1, turned_x]
    cases f <;> rfl
  have y : (p.turned.stepped f.turn n).y.toInt = (-(p.stepped f n).x).toInt := by
    have stepped := place.stepped_x near.1
    have bound := place.1
    rw [turnedPlace.stepped_y near.1, toInt_neg, stepped, turned_y, toInt_neg (by omega)]
    · cases f <;> simp only [Facing.turn, Facing.step] <;> omega
    · rw [stepped]
      cases f <;> simp only [Facing.step] <;> omega
  exact Position.ext (Int8.toInt_inj.1 x) (Int8.toInt_inj.1 y)

end Position

namespace Offset

def turned (o : Offset) : Offset := ⟨o.y, -o.x⟩

theorem along_turned {o : Offset} (above : -127 ≤ o.x.toInt) (f : Facing) :
    o.turned.along f.turn = o.along f := by
  have negated := toInt_neg above
  cases f <;> simp only [along, turned, Facing.turn, Facing.step, negated] <;> omega

end Offset

namespace Placement

def turned (p : Placement) : Placement :=
  { p with
    position := p.position.turned
    offset := p.offset.turned
    rotation := p.rotation + Facing.right.octant }

/-- Two places from the ends of coordinates, with an offset whose negation is an offset. -/
structure Turnable (p : Placement) : Prop where
  position : p.position.Inner
  offset : -127 ≤ p.offset.x.toInt

end Placement

namespace Registry

def turned (r : Registry) : Registry := { r with nodes := r.nodes.map Placement.turned }

theorem find?_turned (r : Registry) (node : NodeId) :
    r.turned.find? node = (r.find? node).map Placement.turned := List.find?_map

theorem at?_turned (r : Registry) (p : Position) :
    r.turned.at? p.turned = (r.at? p).map Placement.turned := by
  have same : (fun n : Placement => n.turned.position == p.turned) =
      fun n : Placement => n.position == p := by
    funext n
    rw [Bool.eq_iff_iff, beq_iff_eq, beq_iff_eq]
    exact Position.turned_inj
  rw [at?, turned, List.find?_map]
  exact congrArg (fun q => (r.nodes.find? q).map Placement.turned) same

theorem carrier?_turned (r : Registry) (key : SensorKey) :
    r.turned.carrier? key = (r.carrier? key).map Placement.turned := by
  rw [carrier?, carrier?, find?_turned, Option.filter_map]
  rfl

end Registry

end WildlifeWarning
