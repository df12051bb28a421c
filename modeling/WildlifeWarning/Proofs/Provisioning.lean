import WildlifeWarning.Proofs.Keyed
import WildlifeWarning.Proofs.Registry

/-! The registry over any history of placements.
Which placements were accepted, the last one of each node and the order in which the nodes came
first are told from the history alone, and the registry holds just that. Its nodes stand in a row of
places of fixed length, in which a node keeps its place for good. -/

namespace WildlifeWarning

namespace Registry

variable {r next : Registry} {p : Placement}

/-- The row of places: the nodes, and behind them the places that are still free. -/
def slots (r : Registry) : List (Option Placement) :=
  r.nodes.map some ++ List.replicate (r.capacity - r.nodes.length) none

def slotFor? (r : Registry) (n : NodeId) : Option Nat :=
  (r.slots.findIdx? fun slot => slot.any fun p => p.node == n).or
    (r.slots.findIdx? Option.isNone)

theorem length_slots (fits : r.nodes.length ≤ r.capacity) : r.slots.length = r.capacity := by
  simp only [slots, List.length_append, List.length_map, List.length_replicate]
  omega

theorem slotFor?_of_findIdx? {n : NodeId} {i : Nat}
    (found : r.nodes.findIdx? (fun p => p.node == n) = some i) : r.slotFor? n = some i := by
  have same : (fun slot : Option Placement => slot.any fun p => p.node == n) ∘ some =
      fun p => p.node == n := rfl
  rw [slotFor?, slots, List.findIdx?_append, List.findIdx?_map, same, found]
  rfl

theorem slotFor?_of_new {n : NodeId} (new : n ∉ r.nodes.map Placement.node)
    (room : r.nodes.length < r.capacity) : r.slotFor? n = some r.nodes.length := by
  have absent : r.slots.findIdx? (fun slot => slot.any fun p => p.node == n) = none := by
    rw [List.findIdx?_eq_none_iff]
    intro slot member
    rcases List.mem_append.1 member with taken | free
    · obtain ⟨p, held, rfl⟩ := List.mem_map.1 taken
      have other : p.node ≠ n := fun same => new (List.mem_map.2 ⟨p, held, same⟩)
      simpa using other
    · rw [List.eq_of_mem_replicate free]
      rfl
  have taken : (r.nodes.map some).findIdx? Option.isNone = none := by
    simp [List.findIdx?_eq_none_iff]
  have free : 0 < r.capacity - r.nodes.length := by omega
  rw [slotFor?, absent, Option.none_or, slots, List.findIdx?_append, taken, Option.none_or,
    List.findIdx?_replicate, if_pos ⟨free, rfl⟩, Option.map_some, Nat.zero_add, List.length_map]

theorem slots_accept (h : r.accept p = .ok next) :
    ∃ i, r.slotFor? p.node = some i ∧ next.slots = r.slots.set i (some p) := by
  obtain ⟨-, room, rfl⟩ := accept_ok h
  cases found : r.nodes.findIdx? fun q => q.node == p.node with
  | some i =>
    obtain ⟨lt, -⟩ := List.findIdx?_eq_some_iff_getElem.1 found
    have within : i < (r.nodes.map some).length := by rwa [List.length_map]
    have stored : Keyed.store Placement.node r.nodes p = r.nodes.set i p :=
      Keyed.store_of_findIdx? found
    refine ⟨i, slotFor?_of_findIdx? found, ?_⟩
    rw [slots, slots, List.set_append_left i _ within, ← List.map_set]
    simp only [stored, List.length_set]
  | none =>
    have new : p.node ∉ r.nodes.map Placement.node := by
      rw [List.findIdx?_eq_none_iff] at found
      intro known
      obtain ⟨q, member, same⟩ := List.mem_map.1 known
      simpa [same] using found q member
    have room := room.resolve_left new
    have stored : Keyed.store Placement.node r.nodes p = r.nodes ++ [p] := Keyed.store_of_new new
    refine ⟨r.nodes.length, slotFor?_of_new new room, ?_⟩
    obtain ⟨free, split⟩ : ∃ free, r.capacity - r.nodes.length = free + 1 :=
      ⟨r.capacity - r.nodes.length - 1, by omega⟩
    have fewer : r.capacity - (r.nodes ++ [p]).length = free := by
      rw [List.length_append, List.length_singleton]
      omega
    rw [slots, slots, List.set_append_right _ _ (by simp)]
    simp only [stored, fewer, split]
    simp [List.replicate_succ]

inductive Call where
  | accept (p : Placement)
  | clear
  deriving DecidableEq

def take (r : Registry) : Call → Except Fault Unit × Registry
  | .accept p =>
    match r.accept p with
    | .ok next => (.ok (), next)
    | .error fault => (.error fault, r)
  | .clear => (.ok (), r.unchanged)

def after (r : Registry) (calls : List Call) : Registry :=
  inTurn (fun r call => (r.take call).2) r calls

/-! What a history comes to, without a registry. -/

/-- Whether a placement is accepted behind those that were: its node is known, or there is room for
one more. -/
def admits (capacity : Nat) (earlier : List Placement) (p : Placement) : Bool :=
  let ids := earlier.map Placement.node
  p.node != 0 && (ids.contains p.node || ids.toFinset.card < capacity)

def accepted (capacity : Nat) (calls : List Call) : List Placement :=
  inTurn (fun earlier call =>
    match call with
    | .accept p => if admits capacity earlier p then earlier ++ [p] else earlier
    | .clear => earlier) [] calls

def latest? (history : List Placement) (n : NodeId) : Option Placement :=
  history.reverse.find? fun p => p.node == n

def arrival (history : List Placement) (n : NodeId) : Nat := (history.map Placement.node).idxOf n

/-- Now at this place, and no other node that is there came before. -/
def IsFirstAt (history : List Placement) (position : Position) (p : Placement) : Prop :=
  latest? history p.node = some p ∧ p.position = position ∧
    ∀ q, latest? history q.node = some q → q.position = position →
      arrival history p.node ≤ arrival history q.node

def ChangedSince (capacity : Nat) (calls : List Call) : Prop :=
  ∃ earlier p later, calls = earlier ++ .accept p :: later ∧ .clear ∉ later ∧
    admits capacity (accepted capacity earlier) p

variable {capacity : Nat} {calls : List Call} {history : List Placement}

theorem accepted_concat_accept (calls : List Call) (p : Placement) :
    accepted capacity (calls ++ [.accept p]) =
      if admits capacity (accepted capacity calls) p then accepted capacity calls ++ [p]
      else accepted capacity calls := inTurn_concat ..

theorem accepted_concat_clear (calls : List Call) :
    accepted capacity (calls ++ [.clear]) = accepted capacity calls := inTurn_concat ..

theorem not_changedSince_nil : ¬ChangedSince capacity [] := by
  rintro ⟨earlier, p, later, empty, -⟩
  simp at empty

theorem not_changedSince_concat_clear (calls : List Call) :
    ¬ChangedSince capacity (calls ++ [.clear]) := by
  rintro ⟨earlier, p, later, split, since, -⟩
  rcases List.eq_nil_or_concat later with rfl | ⟨before, last, rfl⟩
  · obtain ⟨-, same⟩ := List.append_inj' split rfl
    simp at same
  · rw [List.concat_eq_append, ← List.cons_append, ← List.append_assoc] at split
    obtain ⟨-, same⟩ := List.append_inj' split rfl
    simp [← List.singleton_inj.1 same] at since

theorem changedSince_concat_accept (calls : List Call) (p : Placement) :
    ChangedSince capacity (calls ++ [.accept p]) ↔
      admits capacity (accepted capacity calls) p ∨ ChangedSince capacity calls := by
  constructor
  · rintro ⟨earlier, q, later, split, since, admitted⟩
    rcases List.eq_nil_or_concat later with rfl | ⟨before, last, rfl⟩
    · obtain ⟨rfl, same⟩ := List.append_inj' split rfl
      obtain rfl : p = q := by simpa using same
      exact .inl admitted
    · rw [List.concat_eq_append] at split since
      rw [← List.cons_append, ← List.append_assoc] at split
      obtain ⟨rfl, -⟩ := List.append_inj' split rfl
      exact .inr ⟨earlier, q, before, rfl, fun member => since (List.mem_append_left _ member),
        admitted⟩
  · rintro (admitted | ⟨earlier, q, later, rfl, since, admitted⟩)
    · exact ⟨calls, p, [], rfl, List.not_mem_nil, admitted⟩
    · refine ⟨earlier, q, later ++ [.accept p], by simp, ?_, admitted⟩
      simpa using since

structure Holds (capacity : Nat) (history : List Placement) (r : Registry) : Prop where
  capacity_eq : r.capacity = capacity
  nodes_eq : r.nodes = Keyed.storeAll Placement.node history
  fits : r.nodes.length ≤ capacity
  numbered : 0 ∉ r.nodes.map Placement.node

section Holds

variable (holds : Holds capacity history r)

include holds

theorem Holds.distinct : r.Distinct := by
  rw [Distinct, holds.nodes_eq]
  exact Keyed.nodup_storeAll history

theorem Holds.mem_ids {n : NodeId} :
    n ∈ r.nodes.map Placement.node ↔ n ∈ history.map Placement.node := by
  rw [holds.nodes_eq]
  exact Keyed.mem_map_key_storeAll

theorem Holds.length : r.nodes.length = (history.map Placement.node).toFinset.card := by
  rw [holds.nodes_eq, Keyed.length_storeAll]

theorem Holds.find? (n : NodeId) : r.find? n = latest? history n := by
  rw [Registry.find?, holds.nodes_eq]
  exact Keyed.find?_storeAll history n

theorem Holds.admits_iff : admits capacity history p ↔
    p.node ≠ 0 ∧ (p.node ∈ r.nodes.map Placement.node ∨ r.nodes.length < r.capacity) := by
  rw [holds.mem_ids, holds.length, holds.capacity_eq]
  simp [admits]

theorem Holds.arrival_le {i j : Nat} (hi : i < r.nodes.length) (hj : j < r.nodes.length) :
    arrival history r.nodes[i].node ≤ arrival history r.nodes[j].node ↔ i ≤ j := by
  have ids : ∀ {k} (hk : k < r.nodes.length),
      (r.nodes.map Placement.node).idxOf r.nodes[k].node = k := fun hk => by
    have place := holds.distinct.idxOf_getElem _ (by rwa [List.length_map])
    rwa [List.getElem_map] at place
  have known : ∀ {k} (hk : k < r.nodes.length), r.nodes[k].node ∈ history.map Placement.node :=
    fun hk => holds.mem_ids.1 (List.mem_map_of_mem (List.getElem_mem hk))
  have order := Keyed.idxOf_storeAll_le_iff (known hi) (known hj)
  rw [← holds.nodes_eq, ids hi, ids hj] at order
  exact order.symm

theorem Holds.at?_iff {position : Position} {q : Placement} :
    r.at? position = some q ↔ IsFirstAt history position q := by
  constructor
  · intro found
    obtain ⟨here, i, hi, rfl, earlier⟩ := List.find?_eq_some_iff_getElem.1 found
    refine ⟨?_, by simpa using here, fun q latest there => ?_⟩
    · rw [← holds.find?]
      exact find?_of_mem holds.distinct (List.getElem_mem hi)
    · rw [← holds.find?] at latest
      obtain ⟨j, hj, rfl⟩ := List.getElem_of_mem (List.mem_of_find?_eq_some latest)
      refine (holds.arrival_le hi hj).2 (Nat.le_of_not_lt fun lt => ?_)
      simpa [there] using earlier j lt
  · rintro ⟨latest, here, first⟩
    rw [← holds.find?] at latest
    obtain ⟨i, hi, rfl⟩ := List.getElem_of_mem (List.mem_of_find?_eq_some latest)
    refine List.find?_eq_some_iff_getElem.2 ⟨by simpa using here, i, hi, rfl, fun j lt => ?_⟩
    by_contra there
    have hj : j < r.nodes.length := lt.trans hi
    have found := find?_of_mem holds.distinct (List.getElem_mem hj)
    rw [holds.find?] at found
    have le := (holds.arrival_le hi hj).1 (first _ found (by simpa using there))
    omega

theorem Holds.accept (h : r.accept p = .ok next) : Holds capacity (history ++ [p]) next := by
  have room := length_accept (holds.capacity_eq ▸ holds.fits) h
  rw [holds.capacity_eq] at room
  refine ⟨room.1, ?_, room.2, ?_⟩
  · rw [accept_eq_ok h, Keyed.storeAll_concat, ← holds.nodes_eq]
  · rw [accept_eq_ok h]
    intro listed
    obtain ⟨q, member, zero⟩ := List.mem_map.1 listed
    rcases Keyed.mem_of_mem_store Placement.node member with rfl | old
    · rw [accept_zero r zero] at h
      contradiction
    · exact holds.numbered (List.mem_map.2 ⟨q, old, zero⟩)

theorem Holds.take_cases (p : Placement) :
    (p.node = 0 ∧ r.take (.accept p) = (.error (.unknownNode 0), r)) ∨
    (p.node ≠ 0 ∧ p.node ∉ history.map Placement.node ∧
      (history.map Placement.node).toFinset.card = capacity ∧
      r.take (.accept p) = (.error (.capacityExhausted "topology registry" capacity), r)) ∨
    (admits capacity history p ∧
      ∃ next, r.accept p = .ok next ∧ r.take (.accept p) = (.ok (), next)) := by
  rcases r.accept_cases p with ⟨zero, refused⟩ | ⟨nonzero, new, full, refused⟩ |
    ⟨nonzero, room, stored⟩
  · refine .inl ⟨zero, ?_⟩
    rw [take, refused]
  · rw [holds.mem_ids] at new
    rw [holds.capacity_eq] at full refused
    refine .inr (.inl ⟨nonzero, new, ?_, ?_⟩)
    · rw [← holds.length]
      exact holds.fits.antisymm full
    · rw [take, refused]
  · refine .inr (.inr ⟨holds.admits_iff.2 ⟨nonzero, room⟩, _, stored, ?_⟩)
    rw [take, stored]

end Holds

theorem not_admits_zero (zero : p.node = 0) : ¬admits capacity history p := by simp [admits, zero]

theorem not_admits_full (new : p.node ∉ history.map Placement.node)
    (full : (history.map Placement.node).toFinset.card = capacity) :
    ¬admits capacity history p := by
  simp only [admits, full, Nat.lt_irrefl, Bool.and_eq_true, Bool.or_eq_true, List.contains_iff_mem,
    decide_false, Bool.false_eq_true, or_false]
  exact fun admitted => new admitted.2

theorem holds_after (capacity : Nat) (calls : List Call) :
    Holds capacity (accepted capacity calls) (({ capacity } : Registry).after calls) ∧
      ((({ capacity } : Registry).after calls).changed ↔ ChangedSince capacity calls) := by
  induction calls using List.reverseRecOn with
  | nil =>
    exact ⟨⟨rfl, rfl, Nat.zero_le _, List.not_mem_nil⟩,
      iff_of_false Bool.false_ne_true not_changedSince_nil⟩
  | append_singleton calls call ih =>
    rw [after, inTurn_concat, ← after]
    generalize ({ capacity } : Registry).after calls = r at ih
    obtain ⟨holds, flag⟩ := ih
    cases call with
    | clear =>
      rw [accepted_concat_clear]
      exact ⟨⟨holds.capacity_eq, holds.nodes_eq, holds.fits, holds.numbered⟩,
        iff_of_false Bool.false_ne_true (not_changedSince_concat_clear calls)⟩
    | accept p =>
      rw [accepted_concat_accept, changedSince_concat_accept]
      rcases holds.take_cases p with ⟨zero, same⟩ | ⟨-, new, full, same⟩ |
        ⟨admitted, next, stored, later⟩
      · have shut : ¬admits capacity (accepted capacity calls) p := not_admits_zero zero
        rw [if_neg shut, same]
        exact ⟨holds, flag.trans (or_iff_right shut).symm⟩
      · have shut := not_admits_full new full
        rw [if_neg shut, same]
        exact ⟨holds, flag.trans (or_iff_right shut).symm⟩
      · rw [if_pos admitted, later]
        refine ⟨holds.accept stored, iff_of_true ?_ (.inl admitted)⟩
        rw [accept_eq_ok stored]

/-- After any calls a registry is a map of bounded size in which the last placement of a node wins,
and a placement that it refuses changes nothing. -/
theorem last_writer_wins (capacity : Nat) (calls : List Call) :
    let r := ({ capacity } : Registry).after calls
    let history := accepted capacity calls
    let ids := history.map Placement.node
    r.capacity = capacity ∧ r.nodes.length ≤ capacity ∧ r.Distinct ∧
      0 ∉ r.nodes.map Placement.node ∧
      (∀ n, r.find? n = latest? history n) ∧
      (∀ position q, r.at? position = some q ↔ IsFirstAt history position q) ∧
      (r.changed ↔ ChangedSince capacity calls) ∧
      ∀ p,
        let outcome := (r.take (.accept p)).1
        let next := (r.take (.accept p)).2
        (outcome = .ok () ↔ admits capacity history p) ∧
        (outcome = .error (.unknownNode 0) ↔ p.node = 0) ∧
        (outcome = .error (.capacityExhausted "topology registry" capacity) ↔
          p.node ≠ 0 ∧ p.node ∉ ids ∧ ids.toFinset.card = capacity) ∧
        (∀ fault, outcome = .error fault →
          (fault = .unknownNode 0 ∨ fault = .capacityExhausted "topology registry" capacity) ∧
            next = r) ∧
        (outcome = .ok () →
          (∀ n, next.find? n = if n = p.node then some p else r.find? n) ∧
          r.slots.length = capacity ∧
          ∃ i, r.slotFor? p.node = some i ∧ next.slots = r.slots.set i (some p)) := by
  intro r history ids
  obtain ⟨holds, flag⟩ := holds_after capacity calls
  refine ⟨holds.capacity_eq, holds.fits, holds.distinct, holds.numbered, holds.find?,
    fun _ _ => holds.at?_iff, flag, fun p => ?_⟩
  intro outcome next
  rcases holds.take_cases p with ⟨zero, same⟩ | ⟨nonzero, new, full, same⟩ |
    ⟨admitted, later, stored, same⟩
  · have refused : outcome = .error (.unknownNode 0) := congrArg Prod.fst same
    have kept : next = r := congrArg Prod.snd same
    refine ⟨iff_of_false (by simp [refused]) (not_admits_zero zero), iff_of_true refused zero,
      iff_of_false (by simp [refused]) fun exhausted => exhausted.1 zero, fun fault h => ?_,
      fun ok => by simp [refused] at ok⟩
    exact ⟨.inl (Except.error.inj (h.symm.trans refused)), kept⟩
  · have refused : outcome = .error (.capacityExhausted "topology registry" capacity) :=
      congrArg Prod.fst same
    have kept : next = r := congrArg Prod.snd same
    refine ⟨iff_of_false (by simp [refused]) (not_admits_full new full),
      iff_of_false (by simp [refused]) nonzero, iff_of_true refused ⟨nonzero, new, full⟩,
      fun fault h => ?_, fun ok => by simp [refused] at ok⟩
    exact ⟨.inr (Except.error.inj (h.symm.trans refused)), kept⟩
  · have ok : outcome = .ok () := congrArg Prod.fst same
    obtain rfl : later = next := (congrArg Prod.snd same).symm
    have row : r.slots.length = capacity :=
      (length_slots (holds.capacity_eq.symm ▸ holds.fits)).trans holds.capacity_eq
    exact ⟨iff_of_true ok admitted,
      iff_of_false (by simp [ok]) fun zero => not_admits_zero zero admitted,
      iff_of_false (by simp [ok]) fun ⟨_, new, full⟩ => not_admits_full new full admitted,
      fun fault h => by simp [ok] at h,
      fun _ => ⟨find?_accept stored, row, slots_accept stored⟩⟩

def placed (node : NodeId) (position : Position) : Placement :=
  ⟨node, position, .zero, Facing.down.octant, .pirLidar⟩

/-- Node 5 leaves its place to node 7, which it precedes there again when it returns. There is no
room for node 9, and nothing changed since. -/
theorem last_writer_wins_returned :
    let here : Position := ⟨0, 1⟩
    let calls : List Call := [.accept (placed 5 here), .accept (placed 5 ⟨1, 1⟩),
      .accept (placed 7 here), .accept (placed 5 here), .clear]
    let r := ({ capacity := 2 } : Registry).after calls
    IsFirstAt (accepted 2 calls) here (placed 5 here) ∧ ¬ChangedSince 2 calls ∧
      (r.take (.accept (placed 9 here))).2 = r ∧
      ((r.take (.accept (placed 7 ⟨1, 1⟩))).2.find? 5 = some (placed 5 here)) := by
  intro here calls r
  obtain ⟨-, -, -, -, -, first, changed, outcomes⟩ := last_writer_wins 2 calls
  obtain ⟨-, -, -, refused, -⟩ := outcomes (placed 9 here)
  obtain ⟨-, -, -, -, stored⟩ := outcomes (placed 7 ⟨1, 1⟩)
  refine ⟨(first _ _).1 (by decide +kernel), fun since => ?_,
    (refused (.capacityExhausted "topology registry" 2) (by decide +kernel)).2, ?_⟩
  · exact absurd (changed.2 since) (by decide +kernel)
  · rw [(stored (by decide +kernel)).1 5]
    decide +kernel

end Registry

end WildlifeWarning
