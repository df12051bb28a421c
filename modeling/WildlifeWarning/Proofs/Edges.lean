import WildlifeWarning.Proofs.Detector
import WildlifeWarning.Proofs.InTurn

/-! Growth of the field on edges.
While the placements stay, an event grows the cells ahead if and only if it takes its sensor into an
active state other than the one last reported. So events that repeat the state of their sensor may
be left out of a stream, and neither the field nor the state of any sensor tells. -/

namespace WildlifeWarning

structure View where
  node : Placement
  facing : Facing
  deriving DecidableEq

namespace Registry

/-- None if the event cannot be placed. -/
def view? (r : Registry) (event : SensorEvent) : Option View := do
  let node ← r.find? event.node
  let facing ← (event.rotation + node.rotation).facing?
  some ⟨node, facing⟩

def reduced (r : Registry) (p : Parameters) (event : SensorEvent) : SensorState :=
  match r.view? event with
  | some view => r.state p view.node view.facing event.reading
  | none => .idle event.reading.kind

/-- The cells ahead of the place from which the event's detection is seen. -/
def cellsAhead (r : Registry) (p : Parameters) (event : SensorEvent) : List Cell :=
  match r.view? event with
  | some view =>
    p.grid.ahead ((r.reduced p event).origin view.node.position view.facing) view.facing
  | none => []

def lastState (r : Registry) (p : Parameters) (start : SensorKey → SensorState)
    (events : List SensorEvent) (k : SensorKey) : SensorState :=
  match (events.filter fun e => e.key == k).getLast? with
  | some event => r.reduced p event
  | none => start k

variable {r : Registry} {p : Parameters} {event : SensorEvent}

theorem view?_eq_some {view : View} : r.view? event = some view ↔
    r.find? event.node = some view.node ∧
      (event.rotation + view.node.rotation).facing? = some view.facing := by
  obtain ⟨node, facing⟩ := view
  simp only [view?, Option.bind_eq_bind, Option.bind_eq_some_iff, Option.some.injEq, View.mk.injEq]
  constructor
  · rintro ⟨_, found, _, looking, rfl, rfl⟩
    exact ⟨found, looking⟩
  · rintro ⟨found, looking⟩
    exact ⟨node, found, facing, looking, rfl, rfl⟩

theorem nodup_cellsAhead (r : Registry) (p : Parameters) (event : SensorEvent) :
    (r.cellsAhead p event).Nodup := by
  unfold cellsAhead
  split
  · exact p.grid.nodup_ahead _ _
  · exact List.nodup_nil

theorem cells_of_view {view : View} {record : SensorRecord} (placed : r.view? event = some view)
    (own : record.key = event.key) (standing : record.placedAs view.node)
    (state : record.state = r.reduced p event) :
    record.cells p view.node =
      if (r.reduced p event).isActive then r.cellsAhead p event else [] := by
  obtain ⟨-, looking⟩ := view?_eq_some.1 placed
  have facing : (record.key.rotation + view.node.rotation).facing? = some view.facing := by
    rw [own]
    exact looking
  split
  · next active =>
    rw [SensorRecord.cells_of_active (state ▸ active) standing facing, state]
    simp only [cellsAhead, placed]
  · next inactive =>
    exact SensorRecord.cells_of_inactive p view.node (state ▸ Bool.eq_false_iff.2 inactive)

theorem lastState_concat (start : SensorKey → SensorState) (events : List SensorEvent)
    (event : SensorEvent) (k : SensorKey) :
    r.lastState p start (events ++ [event]) k =
      if k = event.key then r.reduced p event else r.lastState p start events k := by
  unfold lastState
  rw [List.filter_append]
  by_cases own : k = event.key
  · simp [own]
  · have other : ¬event.key = k := fun same => own same.symm
    simp [own, other]

end Registry

namespace Detector

variable {p : Parameters} {r : Registry} {d : Detector} {g : ActivityGrid} {event : SensorEvent}

/-- The state of a sensor, idle as long as it has no record. -/
def stateOf (d : Detector) (k : SensorKey) : SensorState := (d.state? k).getD (.idle k.kind)

def hear (p : Parameters) (r : Registry) (s : Detector × ActivityGrid) (event : SensorEvent) :
    Detector × ActivityGrid := (sense p r false s.1 s.2 event).2

def run (p : Parameters) (r : Registry) (s : Detector × ActivityGrid)
    (events : List SensorEvent) : Detector × ActivityGrid := inTurn (hear p r) s events

/-- What an event grows: nothing, unless its state is active and not the one on record. -/
def edge (p : Parameters) (r : Registry) (d : Detector) (event : SensorEvent) : List Cell :=
  if (r.reduced p event).isActive ∧ r.reduced p event ≠ d.stateOf event.key then
    r.cellsAhead p event
  else []

/-- All records are of a few sensors, each of which finds room, and were entered as the nodes
stand. -/
structure Fits (r : Registry) (few : List SensorKey) (d : Detector) : Prop where
  distinct : d.keys.Nodup
  among : d.keys ⊆ few
  room : few.length ≤ d.capacity
  placed : ∀ record ∈ d.records, ∀ node, r.find? record.key.node = some node → record.placedAs node

theorem fits_empty {capacity : Nat} {few : List SensorKey} (room : few.length ≤ capacity) :
    Fits r few { capacity } := ⟨List.nodup_nil, List.nil_subset _, room, by simp⟩

variable {few : List SensorKey}

theorem stateOf_put (d : Detector) (record : SensorRecord) (k : SensorKey) :
    (d.put record).stateOf k = if k = record.key then record.state else d.stateOf k := by
  unfold stateOf state?
  split
  · next own =>
    rw [own, find?_put_self]
    rfl
  · next other => rw [find?_put_of_ne d (Ne.symm other)]

theorem Fits.put (fits : d.Fits r few) {record : SensorRecord} (known : record.key ∈ few)
    (placed : ∀ node, r.find? record.key.node = some node → record.placedAs node) :
    (d.put record).Fits r few := by
  refine ⟨nodup_keys_put record fits.distinct, ?_, fits.room, fun other member => ?_⟩
  · rw [keys_put]
    split
    · exact fits.among
    · exact List.append_subset.2 ⟨fits.among, List.cons_subset.2 ⟨known, List.nil_subset _⟩⟩
  · rcases Keyed.mem_of_mem_store SensorRecord.key member with rfl | old
    · exact placed
    · exact fits.placed other old

theorem Fits.length_lt (fits : d.Fits r few) {k : SensorKey} (known : k ∈ few)
    (unknown : d.find? k = none) : d.records.length < d.capacity := by
  have new : k ∉ d.keys := find?_eq_none_iff.1 unknown
  have fewer : d.keys.length < few.length :=
    length_lt_of_new fits.distinct fits.among known new
  rw [keys, List.length_map] at fewer
  exact Nat.lt_of_lt_of_le fewer fits.room

theorem Fits.track (fits : d.Fits r few) {k : SensorKey} {node : Placement} (known : k ∈ few)
    (standing : r.find? k.node = some node) :
    ∃ record, d.track r k node = (.ok record, d.put record) ∧ record.key = k ∧
      record.state = d.stateOf k ∧ record.placedAs node := by
  cases found : d.find? k with
  | some record =>
    have key := key_of_find? found
    have placed : record.placedAs node :=
      fits.placed record (List.mem_of_find?_eq_some found) node (key.symm ▸ standing)
    have settled : record.settle node = record := if_pos placed
    refine ⟨record, ?_, key, ?_, placed⟩
    · simp only [Detector.track, found, settled]
    · simp [stateOf, state?, found]
  | none =>
    have room := Nat.not_le.2 (fits.length_lt known found)
    refine ⟨.fresh k node, ?_, rfl, ?_, by simp [SensorRecord.placedAs, SensorRecord.fresh]⟩
    · simp only [Detector.track, found, makeRoom, room, if_false]
    · simp [stateOf, state?, found, SensorRecord.fresh]

theorem Fits.sense (fits : d.Fits r few) (known : event.key ∈ few)
    (placed : (r.view? event).isSome) :
    ∃ next, Detector.sense p r false d g event =
        (.ok ⟨event.key, r.reduced p event, edge p r d event⟩, next,
          growAll p (p.growth event.key.kind) g (edge p r d event)) ∧
      next.Fits r few ∧
      ∀ k, next.stateOf k = if k = event.key then r.reduced p event else d.stateOf k := by
  obtain ⟨view, seen⟩ := Option.isSome_iff_exists.1 placed
  obtain ⟨standing, looking⟩ := Registry.view?_eq_some.1 seen
  obtain ⟨old, tracked, key, state, as⟩ := fits.track known standing
  have reduced : r.reduced p event = r.state p view.node view.facing event.reading := by
    simp only [Registry.reduced, seen]
  let entered : SensorRecord := { old with state := r.reduced p event }
  refine ⟨d.put entered, ?_, fits.put (key ▸ known) fun node there => ?_, fun k => ?_⟩
  · simp only [Detector.sense, standing, looking, tracked, Bool.false_eq_true, if_false, ← reduced]
    by_cases repeated : old.state = r.reduced p event
    · have quiet : edge p r d event = [] := if_neg fun edge => edge.2 (repeated.symm.trans state)
      have same : entered = old := by simp only [entered, ← repeated]
      rw [if_pos repeated, quiet, same]
      rfl
    · have new : r.reduced p event ≠ d.stateOf event.key := fun same =>
        repeated (state.trans same.symm)
      have lasting : entered.cells p view.node =
          if (r.reduced p event).isActive then r.cellsAhead p event else [] :=
        Registry.cells_of_view seen key as rfl
      have ahead : entered.cells p view.node = edge p r d event := by
        simp only [lasting, edge, new, ne_eq, not_false_eq_true, and_true]
      rw [if_neg repeated, ahead, put_put d (by rfl)]
  · rw [key] at there
    exact Option.some.inj (standing.symm.trans there) ▸ as
  · rw [stateOf_put, key]

theorem value?_growAll (p : Parameters) (factor : Nat → Single) (g : ActivityGrid)
    {cells : List Cell} (distinct : cells.Nodup) (c : Cell) :
    (c ∈ cells → (growAll p factor g cells).value? p c =
      (g.value? p c).map (ActivityGrid.grown p (factor c.row))) ∧
    (c ∉ cells → (growAll p factor g cells).value? p c = g.value? p c) := by
  induction cells generalizing g with
  | nil => simp [growAll]
  | cons first rest ih =>
    obtain ⟨new, distinct⟩ := List.nodup_cons.1 distinct
    obtain ⟨grown, left⟩ := ih (g.grow p first (factor first.row)) distinct
    constructor
    · intro member
      by_cases own : first = c
      · subst own
        exact (left new).trans (ActivityGrid.value?_grow_self p g first _)
      · have later := (List.mem_cons.1 member).resolve_left (Ne.symm own)
        exact (grown later).trans (by rw [ActivityGrid.value?_grow_of_ne own])
    · intro absent
      obtain ⟨other, later⟩ := not_or.1 (mt List.mem_cons.2 absent)
      exact (left later).trans (ActivityGrid.value?_grow_of_ne (Ne.symm other) _)

theorem Fits.run (fits : d.Fits r few) (p : Parameters) (g : ActivityGrid)
    {events : List SensorEvent} (known : ∀ event ∈ events, event.key ∈ few)
    (placed : ∀ event ∈ events, (r.view? event).isSome) :
    (Detector.run p r (d, g) events).1.Fits r few ∧
      ∀ k, (Detector.run p r (d, g) events).1.stateOf k = r.lastState p d.stateOf events k := by
  refine inTurn_induction (motive := fun events (s : Detector × ActivityGrid) =>
    s.1.Fits r few ∧ ∀ k, s.1.stateOf k = r.lastState p d.stateOf events k)
    ⟨fits, fun _ => rfl⟩ events ?_
  intro earlier event later split
  generalize inTurn (hear p r) (d, g) earlier = s
  rintro ⟨fits, states⟩
  have member : event ∈ events := split ▸ List.mem_append_right earlier List.mem_cons_self
  obtain ⟨next, sensed, fitting, after⟩ :=
    fits.sense (p := p) (g := s.2) (known event member) (placed event member)
  rw [hear, sensed]
  refine ⟨fitting, fun k => ?_⟩
  rw [after, states, Registry.lastState_concat]

/-- By induction from the last event: if it is left out, it repeats the state of its sensor. -/
theorem Fits.run_filter (fits : d.Fits r few) (p : Parameters) (g : ActivityGrid)
    {marked : List (SensorEvent × Bool)}
    (known : ∀ event ∈ marked.map Prod.fst, event.key ∈ few)
    (placed : ∀ event ∈ marked.map Prod.fst, (r.view? event).isSome)
    (repeats : ∀ earlier event later, marked = earlier ++ (event, false) :: later →
      r.reduced p event = r.lastState p d.stateOf (earlier.map Prod.fst) event.key) :
    let all := Detector.run p r (d, g) (marked.map Prod.fst)
    let kept := Detector.run p r (d, g) ((marked.filter Prod.snd).map Prod.fst)
    kept.1.Fits r few ∧ kept.2 = all.2 ∧ ∀ k, kept.1.stateOf k = all.1.stateOf k := by
  induction marked using List.reverseRecOn with
  | nil => exact ⟨fits, rfl, fun _ => rfl⟩
  | append_singleton marked last ih =>
    obtain ⟨event, keeps⟩ := last
    rw [List.map_append, List.map_singleton] at known placed
    have known' := fun e member => known e (List.mem_append_left _ member)
    have placed' := fun e member => placed e (List.mem_append_left _ member)
    obtain ⟨fitting, field, states⟩ := ih known' placed' fun earlier e later split =>
      repeats earlier e (later ++ [(event, keeps)]) (by rw [split]; simp)
    obtain ⟨all, last⟩ := fits.run p g known' placed'
    obtain ⟨next, sensed, -, after⟩ := all.sense (p := p)
      (g := (Detector.run p r (d, g) (marked.map Prod.fst)).2) (known event List.mem_concat_self)
      (placed event List.mem_concat_self)
    have further : Detector.run p r (d, g) (marked.map Prod.fst ++ [event]) = _ :=
      (inTurn_concat ..).trans (congrArg Prod.snd sensed)
    cases keeps with
    | false =>
      have repeated := repeats marked event [] rfl
      have quiet : edge p r (Detector.run p r (d, g) (marked.map Prod.fst)).1 event = [] :=
        if_neg fun edge => edge.2 (repeated.trans (last _).symm)
      have gone : (marked ++ [(event, false)]).filter Prod.snd = marked.filter Prod.snd := by simp
      rw [quiet] at further
      simp only [gone, List.map_append, List.map_singleton, further]
      refine ⟨fitting, field, fun k => ?_⟩
      rw [states, after]
      split
      · next own => rw [own, last, repeated]
      · rfl
    | true =>
      have stays : (marked ++ [(event, true)]).filter Prod.snd =
        marked.filter Prod.snd ++ [(event, true)] := by simp
      obtain ⟨next', sensed', fitting', after'⟩ := fitting.sense (p := p)
        (g := (Detector.run p r (d, g) ((marked.filter Prod.snd).map Prod.fst)).2)
        (known event List.mem_concat_self) (placed event List.mem_concat_self)
      have further' : Detector.run p r (d, g)
          ((marked.filter Prod.snd).map Prod.fst ++ [event]) = _ :=
        (inTurn_concat ..).trans (congrArg Prod.snd sensed')
      have same : edge p r (Detector.run p r (d, g) ((marked.filter Prod.snd).map Prod.fst)).1 event
          = edge p r (Detector.run p r (d, g) (marked.map Prod.fst)).1 event := by
        simp only [edge, states]
      simp only [stays, List.map_append, List.map_singleton, further, further', field, same]
      refine ⟨fitting', trivial, fun k => ?_⟩
      rw [after, after', states]

/-- An event grows the cells ahead, each once, if it brings its sensor into an active state that is
not the one of the sensor's event before, and changes the field in no other case. Leaving out events
that bring the state of their sensor's event before changes neither the field nor any state. -/
theorem grows_on_edges (fits : d.Fits r few) (p : Parameters) (g : ActivityGrid)
    (events : List SensorEvent) (known : ∀ event ∈ events, event.key ∈ few)
    (placed : ∀ event ∈ events, (r.view? event).isSome) :
    (∀ earlier event later, events = earlier ++ event :: later →
      let before := run p r (d, g) earlier
      let after := sense p r false before.1 before.2 event
      let state := r.reduced p event
      (state.isActive ∧ state ≠ r.lastState p d.stateOf earlier event.key →
        after.1 = .ok ⟨event.key, state, r.cellsAhead p event⟩ ∧
        ∀ c, (c ∈ r.cellsAhead p event → after.2.2.value? p c =
            (before.2.value? p c).map (ActivityGrid.grown p (p.growth event.key.kind c.row))) ∧
          (c ∉ r.cellsAhead p event → after.2.2.value? p c = before.2.value? p c)) ∧
      (¬(state.isActive ∧ state ≠ r.lastState p d.stateOf earlier event.key) →
        after.1 = .ok ⟨event.key, state, []⟩ ∧ after.2.2 = before.2)) ∧
    ∀ marked : List (SensorEvent × Bool), marked.map Prod.fst = events →
      (∀ earlier event later, marked = earlier ++ (event, false) :: later →
        r.reduced p event = r.lastState p d.stateOf (earlier.map Prod.fst) event.key) →
      let all := run p r (d, g) events
      let kept := run p r (d, g) ((marked.filter Prod.snd).map Prod.fst)
      kept.2 = all.2 ∧ ∀ k, kept.1.stateOf k = all.1.stateOf k := by
  refine ⟨fun earlier event later split => ?_, fun marked stream repeats => ?_⟩
  · subst split
    intro before after state
    obtain ⟨fitting, last⟩ := fits.run p g
      (fun e member => known e (List.mem_append_left _ member))
      (fun e member => placed e (List.mem_append_left _ member))
    have member : event ∈ earlier ++ event :: later := List.mem_append_right _ List.mem_cons_self
    obtain ⟨next, sensed, -⟩ := fitting.sense (p := p) (g := before.2) (known event member)
      (placed event member)
    have sensed : after = (.ok ⟨event.key, state, edge p r before.1 event⟩, next,
      growAll p (p.growth event.key.kind) before.2 (edge p r before.1 event)) := sensed
    rw [← last]
    constructor
    · intro new
      rw [sensed, edge, if_pos new]
      exact ⟨rfl, value?_growAll p _ before.2 (r.nodup_cellsAhead p event)⟩
    · intro old
      rw [sensed, edge, if_neg old]
      exact ⟨rfl, rfl⟩
  · subst stream
    obtain ⟨-, field, states⟩ := fits.run_filter p g known placed repeats
    exact ⟨field, states⟩

/-- A motion sensor and, one place behind it, a ranging sensor, both looking toward the road. -/
def inLine : Registry :=
  { capacity := 2
    nodes := [⟨1, ⟨0, 0⟩, .zero, Facing.up.octant, .pirPir⟩,
      ⟨2, ⟨0, -1⟩, .zero, Facing.up.octant, .pirLidar⟩] }

/-- Something passes both sensors; an event that repeats the state of its sensor is marked false. -/
def passage : List (SensorEvent × Bool) :=
  let motion (detected : Bool) : SensorEvent := ⟨1, Facing.up.octant, .motion detected⟩
  let ranging (distanceCm : UInt16) : SensorEvent := ⟨2, Facing.up.octant, .ranging distanceCm⟩
  [(ranging 2000, false), (motion true, true), (ranging 300, true), (motion true, false),
    (ranging 200, false), (ranging 700, true), (motion false, true), (ranging 700, false)]

/-- The target that moves from near to far grows the cells ahead of the next node; a passage without
its repeats comes to the same. -/
theorem grows_on_edges_passage :
    let few : List SensorKey := [⟨1, Facing.up.octant, .motion⟩, ⟨2, Facing.up.octant, .ranging⟩]
    let events := passage.map Prod.fst
    let start : Detector × ActivityGrid := ({ capacity := 2 }, .atFloor {})
    let before := run {} inLine start (events.take 5)
    let far : SensorEvent := ⟨2, Facing.up.octant, .ranging 700⟩
    start.1.Fits inLine few ∧ (∀ event ∈ events, event.key ∈ few) ∧
    (∀ event ∈ events, (inLine.view? event).isSome) ∧
    (sense {} inLine false before.1 before.2 far).1 =
      .ok ⟨far.key, .ranging .far, [⟨1, 0⟩, ⟨0, 0⟩]⟩ ∧
    (run {} inLine start ((passage.filter Prod.snd).map Prod.fst)).2 =
      (run {} inLine start events).2 := by
  intro few events start before far
  have fits : start.1.Fits inLine few := fits_empty (by decide)
  have known : ∀ event ∈ events, event.key ∈ few := by decide
  have placed : ∀ event ∈ events, (inLine.view? event).isSome := by decide
  have repeats : ∀ earlier event later, passage = earlier ++ (event, false) :: later →
      inLine.reduced {} event =
        inLine.lastState {} start.1.stateOf (earlier.map Prod.fst) event.key := by
    intro earlier event later split
    have taken : passage.take earlier.length = earlier := by rw [split, List.take_left]
    have here : passage[earlier.length]? = some (event, false) := by rw [split]; simp
    have all : ∀ n < passage.length, ∀ e ∈ passage[n]?, e.2 = false → inLine.reduced {} e.1 =
        inLine.lastState {} start.1.stateOf ((passage.take n).map Prod.fst) e.1.key := by
      decide +kernel
    have found := all earlier.length (List.getElem?_eq_some_iff.1 here).1 (event, false) here rfl
    rwa [taken] at found
  obtain ⟨edges, thinned⟩ := grows_on_edges fits {} start.2 events known placed
  refine ⟨fits, known, placed, ?_, (thinned passage rfl repeats).1⟩
  have new := (edges (events.take 5) far (events.drop 6) rfl).1 (by decide +kernel)
  have cells : inLine.cellsAhead {} far = [⟨1, 0⟩, ⟨0, 0⟩] := by decide +kernel
  exact cells ▸ new.1

end Detector

end WildlifeWarning
