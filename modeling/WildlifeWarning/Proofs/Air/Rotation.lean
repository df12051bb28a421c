import Mathlib.Data.List.Rotate
import WildlifeWarning.Proofs.Air.OnAir
import WildlifeWarning.Proofs.Air.Sharing
import WildlifeWarning.Proofs.InTurn

/-! The carousel goes round its occupied slots.
The order in which slots are tried is the row of all slots rotated to the one after the cursor, so
its occupied slots are a round, and a period takes the first of the round to its end. -/

namespace WildlifeWarning.Carousel

variable {c d : Carousel}

def at? (c : Carousel) (place : Nat) : Option PageCopy := (c.slots[place]?).join

def places (c : Carousel) : List Nat :=
  (List.range c.capacity).filter fun place => (c.at? place).isSome

/-- The occupied slots in the order in which they are aired next. -/
def round (c : Carousel) : List Nat := c.order.filter fun place => (c.at? place).isSome

def payloadAt (c : Carousel) (place : Nat) : Payload :=
  ((c.at? place).map PageCopy.payload).getD Payload.silence

theorem order_eq (c : Carousel) : c.order = (List.range c.capacity).rotate (c.cursor + 1) := by
  apply List.ext_getElem
  · simp [order]
  · intro step within _
    simp only [order, List.getElem_map, List.getElem_range, List.getElem_rotate, List.length_range]
    congr 1
    omega

theorem round_perm_places (c : Carousel) : c.round.Perm c.places := by
  rw [round, order_eq]
  exact (List.rotate_perm _ _).filter _

theorem map_at?_range (c : Carousel) : (List.range c.capacity).map c.at? = c.slots := by
  apply List.ext_getElem
  · simp [capacity]
  · intro place _ within
    simp [at?, within]

theorem filterMap_at?_places (c : Carousel) : c.places.filterMap c.at? = c.copies := by
  calc c.places.filterMap c.at?
      = (List.range c.capacity).filterMap c.at? := by
        rw [places, List.filterMap_filter]
        refine List.filterMap_congr fun place _ => ?_
        cases c.at? place <;> rfl
    _ = ((List.range c.capacity).map c.at?).filterMap id := by rw [List.filterMap_map]; rfl
    _ = c.copies := by rw [map_at?_range, copies]

theorem map_payloadAt_places (c : Carousel) :
    c.places.map c.payloadAt = c.copies.map PageCopy.payload := by
  rw [← filterMap_at?_places, List.map_filterMap, ← List.filterMap_eq_map]
  refine List.filterMap_congr fun place member => ?_
  obtain ⟨copy, slot⟩ := Option.isSome_iff_exists.1 (List.mem_filter.1 member).2
  simp [payloadAt, slot]

theorem length_round (c : Carousel) : c.round.length = c.occupied := by
  rw [c.round_perm_places.length_eq]
  calc c.places.length = (c.places.map c.payloadAt).length := (List.length_map _).symm
    _ = c.occupied := by rw [map_payloadAt_places, List.length_map]; rfl

theorem order_of_round {place : Nat} {rest : List Nat} (next : c.round = place :: rest) :
    ∃ passed later, c.order = passed ++ place :: later ∧
      (∀ i ∈ passed, c.at? i = none) ∧ (∃ copy, c.at? place = some copy) ∧
      later.filter (fun i => (c.at? i).isSome) = rest := by
  obtain ⟨passed, later, split, free, taken, others⟩ := List.filter_eq_cons_iff.1 next
  exact ⟨passed, later, split, by simpa using free, Option.isSome_iff_exists.1 taken, others⟩

theorem rotate_of_round {place : Nat} {rest : List Nat} (next : c.round = place :: rest) :
    c.rotate = { c with cursor := place, outgoing := c.payloadAt place } := by
  obtain ⟨passed, later, split, free, ⟨copy, slot⟩, -⟩ := order_of_round next
  have found : (c.order.findSome? fun i => ((c.slots[i]?).join).map fun copy => (i, copy.payload)) =
      some (place, copy.payload) := by
    have none : passed.findSome? (fun i => ((c.slots[i]?).join).map fun copy =>
        (i, copy.payload)) = none := by
      rw [List.findSome?_eq_none_iff]
      intro i member
      have vacant : (c.slots[i]?).join = none := free i member
      rw [vacant]
      rfl
    have here : (c.slots[place]?).join = some copy := slot
    rw [split, List.findSome?_append, none, List.findSome?_cons, here]
    rfl
  simp only [rotate, found, payloadAt, slot, Option.map_some, Option.getD_some]

@[simp] theorem at?_rotate (c : Carousel) : c.rotate.at? = c.at? := by
  funext place
  rw [at?, slots_rotate, at?]

theorem order_rotate {place : Nat} {passed later : List Nat}
    (split : c.order = passed ++ place :: later) (aired : c.rotate.cursor = place) :
    c.rotate.order = later ++ (passed ++ [place]) := by
  have slots : c.rotate.capacity = c.capacity := by rw [capacity, slots_rotate, capacity]
  have there : (c.cursor + (passed.length + 1)) % c.capacity = place := by
    have within : passed.length < c.capacity := by
      have length : c.order.length = c.capacity := by simp [order]
      rw [← length, split, List.length_append, List.length_cons]
      omega
    have tried : c.order[passed.length]? = some place := by simp [split]
    simpa [order, within] using tried
  calc c.rotate.order
      = ((List.range c.capacity).rotate place).rotate 1 := by
        rw [order_eq, slots, aired, List.rotate_rotate]
    _ = ((List.range c.capacity).rotate (c.cursor + (passed.length + 1))).rotate 1 := by
        rw [← there]
        nth_rewrite 2 [← List.length_range (n := c.capacity)]
        rw [List.rotate_mod]
    _ = c.order.rotate (passed ++ [place]).length := by
        rw [order_eq, List.rotate_rotate, List.rotate_rotate, List.length_append,
          List.length_singleton]
        congr 1
        omega
    _ = later ++ (passed ++ [place]) := by
        rw [split, List.append_cons, List.rotate_append_length_eq]

theorem round_rotate {place : Nat} {rest : List Nat} (next : c.round = place :: rest) :
    c.rotate.round = c.round.rotate 1 := by
  obtain ⟨passed, later, split, free, ⟨copy, slot⟩, others⟩ := order_of_round next
  have order := order_rotate split (by rw [rotate_of_round next])
  have skipped : passed.filter (fun i => (c.at? i).isSome) = [] := by
    rw [List.filter_eq_nil_iff]
    intro i member
    simp [free i member]
  rw [next, List.rotate_cons_succ, List.rotate_zero, round, at?_rotate, order,
    List.filter_append, List.filter_append, others, skipped]
  simp [slot]

theorem rotations_succ (n : Nat) (c : Carousel) :
    (c.rotations (n + 1)).1 = c.rotate.outgoing :: (c.rotate.rotations n).1 := rfl

theorem aired_eq (n : Nat) (some_page : c.round ≠ []) :
    (c.rotations n).1 =
      (List.range n).map fun t => c.payloadAt (c.round.getD (t % c.round.length) 0) := by
  induction n generalizing c with
  | zero => rfl
  | succ n ih =>
    obtain ⟨place, rest, next⟩ := List.exists_cons_of_ne_nil some_page
    have turned : c.rotate.round = c.round.rotate 1 := round_rotate next
    have payloads : c.rotate.payloadAt = c.payloadAt := by
      funext place
      rw [payloadAt, at?_rotate, payloadAt]
    have first : c.rotate.outgoing = c.payloadAt (c.round.getD 0 0) := by
      rw [rotate_of_round next, next]
      rfl
    have pos : 0 < c.round.length := List.length_pos_of_ne_nil some_page
    have later : ∀ t, (c.round.rotate 1).getD (t % c.round.length) 0 =
        c.round.getD ((t + 1) % c.round.length) 0 := by
      intro t
      rw [List.getD_eq_getElem?_getD, List.getElem?_rotate (Nat.mod_lt t pos), Nat.mod_add_mod,
        ← List.getD_eq_getElem?_getD]
    rw [rotations_succ, ih (by simpa [turned] using some_page), first, payloads, turned,
      List.length_rotate, List.range_succ_eq_map, List.map_cons, Nat.zero_mod, List.map_map]
    exact congrArg _ (List.map_congr_left fun t _ => congrArg c.payloadAt (later t))

theorem aired_round (some_page : c.round ≠ []) :
    (c.rotations c.round.length).1 = c.round.map c.payloadAt := by
  rw [aired_eq _ some_page]
  apply List.ext_getElem
  · simp
  · intro t _ within
    rw [List.length_map] at within
    simp [Nat.mod_eq_of_lt within, within]

theorem aired_again (n : Nat) (some_page : c.round ≠ []) :
    (c.rotations (c.round.length + n)).1 =
      (c.rotations c.round.length).1 ++ (c.rotations n).1 := by
  rw [aired_eq _ some_page, aired_eq _ some_page, aired_eq _ some_page, List.range_add,
    List.map_append, List.map_map]
  congr 1
  refine List.map_congr_left fun t _ => ?_
  simp only [Function.comp_apply, Nat.add_mod_left]

/-- What happens to a carousel: it is asked for a change, which it may refuse, or a channel period
ends. -/
inductive Turn where
  | ask (request : Request)
  | period

def take (c : Carousel) : Turn → Carousel
  | .ask request =>
    match c.handle request with
    | .ok d => d
    | .error _ => c
  | .period => c.rotate

def after (c : Carousel) (turns : List Turn) : Carousel := inTurn take c turns

theorem copies_of_unrenewed {request : Request} (handled : c.handle request = .ok d)
    (stays : c.renews request = false) (none : d.copies = []) : c.copies = [] := by
  cases request with
  | broadcast tag payload replicas =>
    rcases add_cases c tag payload replicas with ⟨-, e, added, -, copies⟩ | ⟨-, refused⟩
    · obtain rfl := Except.ok.inj (added.symm.trans handled)
      rw [none] at copies
      exact (List.append_eq_nil_iff.1 copies.nil_eq.symm).1
    · exact absurd (refused.symm.trans handled) (by simp)
  | cancel tag =>
    obtain rfl := Except.ok.inj handled
    simp [renews, occupied, none] at stays
  | replace tag payload =>
    obtain rfl := Except.ok.inj handled
    rw [copies_replace] at none
    exact List.map_eq_nil_iff.1 none

def Quiet (c : Carousel) : Prop := c.copies = [] → c.outgoing = Payload.silence

theorem Current.quiet (current : c.Current) : c.Quiet := by
  intro none
  rw [current, current?_of_copies none]
  rfl

theorem quiet_take (quiet : c.Quiet) (turn : Turn) : (c.take turn).Quiet := by
  cases turn with
  | period => exact (current_rotate c).quiet
  | ask request =>
    simp only [take]
    cases handled : c.handle request with
    | error fault => exact quiet
    | ok d =>
      obtain ⟨renewed, left⟩ := outgoing_handle handled
      cases renews : c.renews request with
      | true => exact (renewed renews).quiet
      | false =>
        intro none
        rw [left renews]
        exact quiet (copies_of_unrenewed handled renews none)

theorem quiet_after (quiet : c.Quiet) (turns : List Turn) : (c.after turns).Quiet :=
  inTurn_induction (motive := fun _ c => Quiet c) quiet turns fun _ turn _ _ quiet =>
    quiet_take quiet turn

/-- Whatever a carousel was asked for before, and wherever its cursor stands: as many periods as it
has occupied slots air each of these once, and whatever is aired then is aired again in the same
order behind it, as long as nothing is asked for; and while no slot is occupied, silence is on
air. -/
theorem slots_take_turns (capacity : Nat) (turns : List Turn) :
    let c := (empty capacity).after turns
    (0 < c.occupied →
      (∃ round : List Nat, round.Perm c.places ∧
        (c.rotations c.occupied).1 = round.map c.payloadAt) ∧
      (c.rotations c.occupied).1.Perm (c.copies.map PageCopy.payload) ∧
      ∀ n, (c.rotations (c.occupied + n)).1 = (c.rotations c.occupied).1 ++ (c.rotations n).1) ∧
    (c.occupied = 0 → c.outgoing = Payload.silence) := by
  intro c
  refine ⟨fun some_page => ?_, fun none => ?_⟩
  · have next : c.round ≠ [] := List.ne_nil_of_length_pos (c.length_round.symm ▸ some_page)
    rw [← c.length_round]
    refine ⟨⟨c.round, c.round_perm_places, aired_round next⟩, ?_, fun n => aired_again n next⟩
    rw [aired_round next, ← map_payloadAt_places]
    exact c.round_perm_places.map _
  · have start : (empty capacity).Quiet := fun _ => rfl
    exact quiet_after start turns (List.length_eq_zero_iff.1 none)

/-- Three pages are queued, the second twice and on air when its copies are dropped. -/
def leavesHole : List Turn :=
  [.ask (.broadcast .motionSample (Vector.replicate 8 1) 1),
    .ask (.broadcast .indicator (Vector.replicate 8 2) 2),
    .ask (.broadcast .inactive (Vector.replicate 8 3) 1), .period, .ask (.cancel .indicator)]

/-- No page is left in the slot at the cursor, and the other two go on taking turns. -/
theorem slots_take_turns_hole :
    let c := (empty 4).after leavesHole
    c.current? = none ∧ c.occupied = 2 ∧
      (c.rotations (2 + 2)).1.map (Payload.byte · 0) = [3, 1, 3, 1] := by
  have two : ((empty 4).after leavesHole).occupied = 2 := by decide +kernel
  have first : (((empty 4).after leavesHole).rotations 2).1.map (Payload.byte · 0) = [3, 1] := by
    decide +kernel
  obtain ⟨-, -, again⟩ := (slots_take_turns 4 leavesHole).1 (two ▸ Nat.zero_lt_two)
  have twice := again 2
  rw [two] at twice
  refine ⟨by decide +kernel, two, ?_⟩
  rw [twice, List.map_append, first]
  rfl

end WildlifeWarning.Carousel
