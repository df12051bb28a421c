import WildlifeWarning.Proofs.Detector
import WildlifeWarning.Proofs.InTurn

/-! Where the reinforced cells come from.
A lasting state reinforces the cells that grew when it was entered, or none while its node stands
differently, whatever placements came in between and whether or not the detector took them over. -/

namespace WildlifeWarning

theorem SensorRecord.cells_of_still (record : SensorRecord) (p : Parameters) {node now : Placement}
    (position : now.position = node.position) (rotation : now.rotation = node.rotation) :
    record.cells p now = record.cells p node := by
  obtain ⟨_, _, _, _, _⟩ := node
  obtain ⟨_, _, _, _, _⟩ := now
  subst position rotation
  rfl

namespace Detector

variable {p : Parameters} {r : Registry} {d : Detector} {g : ActivityGrid} {event : SensorEvent}
  {record : SensorRecord}

theorem lastingCells_eq (p : Parameters) {suppressed : SensorKey → Bool} {now : Placement}
    (heard : suppressed record.key = false) (standing : r.find? record.key.node = some now) :
    lastingCells p r suppressed record = record.cells p now := by
  simp only [lastingCells, heard, standing, Bool.false_eq_true, if_false]

theorem mem_of_sync (member : record ∈ (d.sync r).records) (active : record.state.isActive) :
    record ∈ d.records := by
  obtain ⟨old, there, settled⟩ := List.mem_filterMap.1 member
  obtain ⟨node, -, rfl⟩ := Option.map_eq_some_iff.1 settled
  rw [SensorRecord.settle_of_active active]
  exact there

theorem mem_of_makeRoom (member : record ∈ (d.makeRoom r).records)
    (active : record.state.isActive) : record ∈ d.records := by
  unfold makeRoom at member
  split at member
  · exact mem_of_sync member active
  · exact member

theorem Starts.mem_of_active {key : SensorKey} {node : Placement} {base : Detector}
    (starts : Starts r d key node base record) (active : record.state.isActive) :
    record ∈ d.records := by
  cases starts with
  | known found =>
    rw [SensorRecord.settle_of_active active]
    exact List.mem_of_find?_eq_some found
  | new => simp [SensorRecord.fresh] at active

theorem Starts.eq_settle {key : SensorKey} {node : Placement} {base : Detector}
    {known : SensorRecord} (starts : Starts r d key node base record)
    (found : d.find? key = some known) : record = known.settle node := by
  cases starts with
  | known there => rw [Option.some.inj (there.symm.trans found)]
  | new unknown => exact absurd (unknown.symm.trans found) (by simp)

theorem mem_of_sense (member : record ∈ (sense p r false d g event).2.1.records)
    (active : record.state.isActive) :
    record ∈ d.records ∨ d.find? record.key ≠ some record ∧ event.key = record.key ∧
      ∃ node, r.find? record.key.node = some node ∧ record.placedAs node ∧
        (sense p r false d g event).1 = .ok ⟨record.key, record.state, record.cells p node⟩ := by
  cases result : (sense p r false d g event).1 with
  | error fault =>
    rcases sense_error result with ⟨-, same⟩ | ⟨-, -, -, -, dropped⟩
    · exact .inl (same ▸ member)
    · exact .inl (mem_of_makeRoom (dropped ▸ member) active)
  | ok detection =>
    obtain ⟨node, -, base, old, standing, -, starts, grown, after⟩ := sense_ok result
    rw [after] at member
    rcases Keyed.mem_of_mem_store SensorRecord.key member with entered | kept
    · have own : record.key = event.key := by
        rw [entered]
        exact starts.key_eq
      have placed : record.placedAs node := by
        rw [entered]
        exact starts.placedAs
      have state : record.state = detection.state := by rw [entered]
      by_cases repeated : old.state = detection.state
      · have same : old = record := by rw [entered, ← repeated]
        exact .inl (same ▸ starts.mem_of_active (same ▸ active))
      · rw [if_neg repeated, ← entered] at grown
        refine .inr ⟨fun there => ?_, own.symm, node, ?_, placed, ?_⟩
        · have settled := starts.eq_settle (own ▸ there)
          have same : record.settle node = record := if_pos placed
          exact repeated (by rw [settled, same, state])
        · rw [own]
          exact standing
        · rw [own, ← key_of_sense_ok result, state, ← grown]
    · cases starts with
      | known => exact .inl kept
      | new => exact .inl (mem_of_makeRoom kept active)

end Detector

structure Sensing where
  registry : Registry
  detector : Detector
  grid : ActivityGrid

inductive SensingCall where
  | place (placement : Placement)
  | sense (suppressed : Bool) (event : SensorEvent)
  | trickle (suppressed : SensorKey → Bool)
  | sync

namespace Sensing

/-- A refused placement changes nothing. -/
def take (p : Parameters) (s : Sensing) : SensingCall → Sensing
  | .place placement =>
    match s.registry.accept placement with
    | .ok registry => { s with registry }
    | .error _ => s
  | .sense suppressed event =>
    let (_, detector, grid) := Detector.sense p s.registry suppressed s.detector s.grid event
    { s with detector, grid }
  | .trickle suppressed =>
    { s with grid := Detector.trickle p s.registry suppressed s.detector s.grid }
  | .sync => { s with detector := s.detector.sync s.registry }

def after (p : Parameters) (s : Sensing) (calls : List SensingCall) : Sensing :=
  inTurn (take p) s calls

/-- The cells that a second of trickle touches for one sensor. -/
def touched (p : Parameters) (s : Sensing) (suppressed : SensorKey → Bool) (k : SensorKey) :
    List Cell :=
  match s.detector.find? k with
  | some record => Detector.lastingCells p s.registry suppressed record
  | none => []

def Holds (s : Sensing) (record : SensorRecord) : Prop :=
  s.detector.find? record.key = some record

/-- An event brought the record into its state, while `node` was the placement of its node, and was
answered with what it grew. The record has been the same ever since. -/
structure EnteredAt (p : Parameters) (s : Sensing) (earlier : List SensingCall)
    (event : SensorEvent) (later : List SensingCall) (record : SensorRecord) (node : Placement)
    (grown : List Cell) : Prop where
  own : event.key = record.key
  standing : (s.after p earlier).registry.find? record.key.node = some node
  placed : record.placedAs node
  answer : (Detector.sense p (s.after p earlier).registry false (s.after p earlier).detector
    (s.after p earlier).grid event).1 = .ok ⟨record.key, record.state, grown⟩
  new : ¬(s.after p earlier).Holds record
  since : ∀ between, between <+: later →
    (s.after p (earlier ++ .sense false event :: between)).Holds record

def Entered (p : Parameters) (s : Sensing) (calls : List SensingCall) (record : SensorRecord)
    (node : Placement) (grown : List Cell) : Prop :=
  ∃ earlier event later, calls = earlier ++ .sense false event :: later ∧
    s.EnteredAt p earlier event later record node grown

variable {p : Parameters} {s : Sensing} {calls : List SensingCall} {call : SensingCall}
  {record : SensorRecord} {node : Placement} {grown : List Cell}

theorem Entered.later (entered : s.Entered p calls record node grown)
    (holds : (s.after p (calls ++ [call])).Holds record) :
    s.Entered p (calls ++ [call]) record node grown := by
  obtain ⟨earlier, event, later, rfl, at_⟩ := entered
  refine ⟨earlier, event, later ++ [call], by simp, { at_ with since := fun between within => ?_ }⟩
  rcases List.prefix_concat_iff.1 within with rfl | before
  · simpa using holds
  · exact at_.since between before

theorem isSome_find?_take (call : SensingCall) {n : NodeId}
    (registered : (s.registry.find? n).isSome) : ((s.take p call).registry.find? n).isSome := by
  cases call with
  | place placement =>
    cases accepted : s.registry.accept placement with
    | error fault => simpa only [take, accepted] using registered
    | ok registry =>
      simp only [take, accepted, Registry.find?_accept accepted]
      split
      · rfl
      · exact registered
  | _ => exact registered

/-- No sensor has two records; all are of registered nodes, and an active one lies in the cells that
grew when it was entered. -/
structure Accounted (p : Parameters) (s : Sensing) (calls : List SensingCall) : Prop where
  distinct : (s.after p calls).detector.keys.Nodup
  registered : ∀ k ∈ (s.after p calls).detector.keys,
    ((s.after p calls).registry.find? k.node).isSome
  entered : ∀ record ∈ (s.after p calls).detector.records, record.state.isActive →
    ∃ node, s.Entered p calls record node (record.cells p node)

theorem Accounted.take (accounted : s.Accounted p calls) (call : SensingCall)
    (distinct : ((s.after p calls).take p call).detector.keys.Nodup)
    (among : ∀ k ∈ ((s.after p calls).take p call).detector.keys,
      ((s.after p calls).registry.find? k.node).isSome)
    (entered : ∀ record ∈ ((s.after p calls).take p call).detector.records,
      record.state.isActive → record ∈ (s.after p calls).detector.records ∨
        ∃ node, s.Entered p (calls ++ [call]) record node (record.cells p node)) :
    s.Accounted p (calls ++ [call]) := by
  have now : s.after p (calls ++ [call]) = (s.after p calls).take p call := inTurn_concat ..
  refine ⟨now ▸ distinct, fun k member => ?_, fun record member active => ?_⟩
  · rw [now] at member ⊢
    exact isSome_find?_take call (among k member)
  · rw [now] at member
    rcases entered record member active with old | new
    · -- It was on record before the call, and that of its sensor still is the same.
      obtain ⟨node, entered⟩ := accounted.entered record old active
      refine ⟨node, entered.later ?_⟩
      rw [now]
      exact Keyed.find?_of_mem SensorRecord.key distinct member
    · exact new

theorem accounted_take (accounted : s.Accounted p calls) (call : SensingCall) :
    s.Accounted p (calls ++ [call]) := by
  have quiet (same : ((s.after p calls).take p call).detector = (s.after p calls).detector) :
      s.Accounted p (calls ++ [call]) :=
    accounted.take call (same ▸ accounted.distinct) (same ▸ accounted.registered)
      fun record member _ => .inl (same ▸ member)
  cases call with
  | place placement =>
    refine quiet ?_
    simp only [Sensing.take]
    split <;> rfl
  | trickle suppressed => exact quiet rfl
  | sync =>
    refine accounted.take .sync (Detector.nodup_keys_sync accounted.distinct) (fun k member => ?_)
      fun record member active => .inl (Detector.mem_of_sync member active)
    have member : k ∈ ((s.after p calls).detector.sync (s.after p calls).registry).keys := member
    rw [Detector.keys_sync] at member
    exact accounted.registered k (List.mem_filter.1 member).1
  | sense suppressed event =>
    refine accounted.take (.sense suppressed event) (Detector.nodup_keys_sense accounted.distinct)
      (fun k member => ?_) fun record member active => ?_
    · rcases Detector.mem_keys_sense member with old | ⟨rfl, registered⟩
      · exact accounted.registered k old
      · exact registered
    · cases suppressed with
      | true =>
        simp only [Sensing.take, Detector.sense_suppressed] at member
        exact .inl member
      | false =>
        refine (Detector.mem_of_sense member active).imp_right ?_
        rintro ⟨new, own, node, standing, placed, answer⟩
        refine ⟨node, calls, event, [], rfl, own, standing, placed, answer, new, ?_⟩
        intro between within
        rw [List.prefix_nil.1 within, after, inTurn_concat]
        exact Keyed.find?_of_mem SensorRecord.key
          (Detector.nodup_keys_sense accounted.distinct) member

theorem accounted_after (p : Parameters) (r : Registry) (capacity : Nat) (grid : ActivityGrid)
    (calls : List SensingCall) : Accounted p ⟨r, { capacity }, grid⟩ calls := by
  induction calls using List.reverseRecOn with
  | nil => exact ⟨List.nodup_nil, by simp [after, Detector.keys], by simp [after]⟩
  | append_singleton calls call ih => exact accounted_take ih call

theorem touched_of_found {k : SensorKey} (suppressed : SensorKey → Bool)
    (found : s.detector.find? k = some record) :
    s.touched p suppressed k = Detector.lastingCells p s.registry suppressed record := by
  simp only [touched, found]

theorem trickled_eq (p : Parameters) (suppressed : SensorKey → Bool)
    (distinct : s.detector.keys.Nodup) :
    Detector.trickled p s.registry suppressed s.detector =
      s.detector.keys.flatMap (s.touched p suppressed) := by
  rw [Detector.trickled, Detector.keys, List.flatMap_map]
  refine List.flatMap_congr fun record member => ?_
  exact (touched_of_found suppressed (Keyed.find?_of_mem SensorRecord.key distinct member)).symm

theorem trickle_eq (p : Parameters) (suppressed : SensorKey → Bool)
    (distinct : s.detector.keys.Nodup) :
    Detector.trickle p s.registry suppressed s.detector s.grid =
      s.detector.keys.foldl (fun g k =>
        Detector.growAll p (p.reinforcement k.kind) g (s.touched p suppressed k)) s.grid := by
  rw [Detector.trickle, Detector.keys, List.foldl_map]
  refine List.foldl_ext _ _ _ fun g record member => ?_
  rw [touched_of_found suppressed (Keyed.find?_of_mem SensorRecord.key distinct member)]

/-- Each second touches sensor by sensor: nothing for one that is suppressed or in no active state;
for another what grew when the state was entered, or nothing while its node has another position or
rotation than then. -/
theorem reinforces_what_grew (p : Parameters) (r : Registry) (capacity : Nat) (grid : ActivityGrid)
    (calls : List SensingCall) (suppressed : SensorKey → Bool) :
    let start : Sensing := ⟨r, { capacity }, grid⟩
    let s := start.after p calls
    let touched := s.touched p suppressed
    s.detector.keys.Nodup ∧
    Detector.trickled p s.registry suppressed s.detector = s.detector.keys.flatMap touched ∧
    Detector.trickle p s.registry suppressed s.detector s.grid =
      s.detector.keys.foldl
        (fun g k => Detector.growAll p (p.reinforcement k.kind) g (touched k)) s.grid ∧
    ∀ k,
      (suppressed k ∨ (∀ state, s.detector.state? k = some state → state.isActive = false) →
        touched k = []) ∧
      ∀ record, s.detector.find? k = some record → record.state.isActive → suppressed k = false →
        ∃ node now grown, start.Entered p calls record node grown ∧
          s.registry.find? k.node = some now ∧
          (now.position = node.position ∧ now.rotation = node.rotation → touched k = grown) ∧
          (¬(now.position = node.position ∧ now.rotation = node.rotation) → touched k = []) := by
  intro start s touched
  have accounted := accounted_after p r capacity grid calls
  refine ⟨accounted.distinct, trickled_eq p suppressed accounted.distinct,
    trickle_eq p suppressed accounted.distinct, fun k => ⟨fun rests => ?_, ?_⟩⟩
  · change s.touched p suppressed k = []
    cases found : s.detector.find? k with
    | none => simp only [Sensing.touched, found]
    | some record =>
      rw [touched_of_found suppressed found]
      rcases rests with silenced | inactive
      · rw [← Detector.key_of_find? found] at silenced
        exact if_pos silenced
      · exact Detector.lastingCells_of_inactive p _ suppressed
          (inactive record.state (by rw [Detector.state?, found]; rfl))
  · intro record found active heard
    obtain rfl := Detector.key_of_find? found
    have member := List.mem_of_find?_eq_some found
    obtain ⟨node, entered⟩ := accounted.entered record member active
    obtain ⟨now, standing⟩ := Option.isSome_iff_exists.1
      (accounted.registered record.key (List.mem_map_of_mem member))
    have lasts : touched record.key = record.cells p now :=
      (touched_of_found suppressed found).trans (Detector.lastingCells_eq p heard standing)
    refine ⟨node, now, _, entered, standing, fun still => ?_, fun moved => ?_⟩
    · exact lasts.trans (record.cells_of_still p still.1 still.2)
    · obtain ⟨_, _, _, -, entering⟩ := entered
      have placed := entering.placed
      refine lasts.trans (SensorRecord.cells_of_moved p fun still => moved ?_)
      simp only [SensorRecord.placedAs, Bool.and_eq_true, beq_iff_eq] at placed still
      exact ⟨still.1.symm.trans placed.1, still.2.symm.trans placed.2⟩

/-- A node that was moved away reinforces nothing, and back at its place what grew there, though the
detector never took over a placement. -/
theorem reinforces_what_grew_moved :
    let start : Sensing := ⟨{ capacity := 1 }, { capacity := 1 }, .atFloor {}⟩
    let stands (y : Int8) : SensingCall := .place ⟨1, ⟨0, y⟩, .zero, Facing.up.octant, .pirPir⟩
    let moved : List SensingCall :=
      [stands 0, .sense false ⟨1, Facing.up.octant, .motion true⟩, stands (-1)]
    let back := moved ++ [stands 0]
    let k : SensorKey := ⟨1, Facing.up.octant, .motion⟩
    let record : SensorRecord := ⟨k, .motion true, ⟨0, 0⟩, Facing.up.octant⟩
    (start.after {} moved).touched {} (fun _ => false) k = [] ∧
    (start.after {} back).touched {} (fun _ => false) k = [⟨1, 0⟩, ⟨0, 0⟩] ∧
    ∃ node, start.Entered {} back record node [⟨1, 0⟩, ⟨0, 0⟩] := by
  intro start stands moved back k record
  have away : (start.after {} moved).touched {} (fun _ => false) k = [] := by decide +kernel
  have cells : (start.after {} back).touched {} (fun _ => false) k = [⟨1, 0⟩, ⟨0, 0⟩] := by
    decide +kernel
  have held : (start.after {} back).detector.find? k = some record := by decide +kernel
  have lasting := reinforces_what_grew {} { capacity := 1 } 1 (.atFloor {}) back (fun _ => false)
  obtain ⟨node, now, grown, entered, -, still, turned⟩ := (lasting.2.2.2 k).2 record held rfl rfl
  refine ⟨away, cells, node, ?_⟩
  by_cases same : now.position = node.position ∧ now.rotation = node.rotation
  · exact cells ▸ still same ▸ entered
  · exact absurd (cells.symm.trans (turned same)) (by simp)

end Sensing

end WildlifeWarning
