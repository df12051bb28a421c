import Mathlib.Data.List.Perm.Basic
import WildlifeWarning.Air.Carousel

/-! Which copies a carousel holds after the requests of one sender.
Copies are counted without their slots, up to permutation. A sender whose tags no other sender uses
and for whose pages there is room gets what it asks for, and the copies of the others stay. -/

namespace WildlifeWarning

def PageCopy.request (replicas : Nat) (copy : PageCopy) : Request :=
  .broadcast copy.tag copy.payload replicas

def Request.tag : Request → PageTag
  | broadcast tag .. => tag
  | cancel tag => tag
  | replace tag _ => tag

namespace Carousel

theorem copies_fill (copy : PageCopy) (n : Nat) (slots : List (Option PageCopy))
    (free : (slots.filterMap id).length + n ≤ slots.length) :
    ((fill copy n slots).filterMap id).Perm (slots.filterMap id ++ List.replicate n copy) := by
  fun_induction fill copy n slots with
  | case1 slots => simp
  | case2 n => simp at free; contradiction
  | case3 n rest ih =>
    rw [List.filterMap_cons_none rfl, List.length_cons] at free
    have rest_free : (rest.filterMap id).length + n ≤ rest.length := by omega
    simpa [List.replicate_succ] using ((ih rest_free).cons copy).trans List.perm_middle.symm
  | case4 n slot rest _ ih =>
    cases slot with
    | none => contradiction
    | some first =>
      rw [List.filterMap_cons_some (f := id) rfl, List.length_cons, List.length_cons] at free
      have rest_free : (rest.filterMap id).length + (n + 1) ≤ rest.length := by omega
      simpa using ih rest_free

theorem add_of_room {c : Carousel} (tag : PageTag) (payload : Payload) {n : Nat}
    (room : c.copies.length + n ≤ c.capacity) :
    ∃ d, c.add tag payload n = .ok d ∧ d.capacity = c.capacity ∧
      d.copies.Perm (c.copies ++ List.replicate n ⟨tag, payload⟩) := by
  have filled := copies_fill ⟨tag, payload⟩ n c.slots room
  have fits : ¬c.capacity - c.occupied < n := by
    simp only [occupied]
    omega
  unfold add
  rw [if_neg fits]
  split
  · exact ⟨_, rfl, by simp [capacity], filled⟩
  · exact ⟨_, rfl, by simp [capacity], filled⟩

theorem copies_replace (c : Carousel) (tag : PageTag) (payload : Payload) :
    (c.replace tag payload).copies =
      c.copies.map fun copy => if copy.tag = tag then ⟨tag, payload⟩ else copy := by
  simp only [copies, replace, List.filterMap_map, List.map_filterMap]
  congr 1

@[simp] theorem capacity_replace (c : Carousel) (tag : PageTag) (payload : Payload) :
    (c.replace tag payload).capacity = c.capacity := by simp [replace, capacity]

@[simp] theorem slots_rotate (c : Carousel) : c.rotate.slots = c.slots := by
  unfold rotate
  split <;> rfl

theorem fault_of_serve {c : Carousel} {requests : List Request} {fault : Fault}
    (refused : (c.serve requests).1 = .error fault) :
    ∃ capacity, fault = .capacityExhausted "page pool" capacity := by
  fun_induction serve c requests with
  | case1 => contradiction
  | case2 c request rest next handled ih => exact ih refused
  | case3 c request rest other handled =>
    obtain rfl := Except.error.inj refused
    cases request with
    | broadcast tag payload replicas =>
      simp only [handle, add] at handled
      split at handled
      · exact ⟨_, (Except.error.inj handled).symm⟩
      · split at handled <;> contradiction
    | cancel => contradiction
    | replace => contradiction

/-- All requests are granted, and `goal` is queued after them. -/
def Airs (c : Carousel) (requests : List Request) (goal : List PageCopy) : Prop :=
  (c.serve requests).1 = .ok () ∧ (c.serve requests).2.capacity = c.capacity ∧
    (c.serve requests).2.copies.Perm goal

variable {c : Carousel} {others mine : List PageCopy}

theorem airs_nil {goal : List PageCopy} (h : c.copies.Perm goal) : c.Airs [] goal := ⟨rfl, rfl, h⟩

theorem airs_cons {request : Request} {rest : List Request} {goal : List PageCopy} {d : Carousel}
    (granted : c.handle request = .ok d) (same : d.capacity = c.capacity)
    (h : d.Airs rest goal) : c.Airs (request :: rest) goal := by
  obtain ⟨result, size, copies⟩ := h
  simp only [Airs, serve, granted]
  exact ⟨result, size.trans same, copies⟩

theorem airs_requests (replicas : Nat) (pages : List PageCopy) (h : c.copies.Perm others)
    (room : others.length + pages.length * replicas ≤ c.capacity) :
    c.Airs (pages.map (PageCopy.request replicas))
      (others ++ pages.flatMap (List.replicate replicas)) := by
  induction pages generalizing c others with
  | nil => exact airs_nil (by simpa using h)
  | cons page rest ih =>
    rw [List.length_cons, Nat.succ_mul] at room
    have size := h.length_eq
    obtain ⟨d, added, same, copies⟩ :=
      add_of_room page.tag page.payload (n := replicas) (c := c) (by omega)
    have next := ih (copies.trans (h.append_right _)) (by
      rw [List.length_append, List.length_replicate, same]
      omega)
    refine airs_cons (d := d) added same ?_
    simpa [List.append_assoc] using next

theorem copies_remove_own {tag : PageTag} (h : c.copies.Perm (others ++ mine))
    (foreign : ∀ copy ∈ others, copy.tag ≠ tag) (own : ∀ copy ∈ mine, copy.tag = tag) :
    (c.remove tag).copies.Perm others := by
  rw [copies_remove]
  refine (h.filter _).trans (List.Perm.of_eq ?_)
  rw [List.filter_append, List.filter_eq_self.2 (by simpa using foreign),
    List.filter_eq_nil_iff.2 (by simpa using own), List.append_nil]

theorem copies_replace_own (tag : PageTag) (payload : Payload)
    (h : c.copies.Perm (others ++ mine))
    (foreign : ∀ copy ∈ others, copy.tag ≠ tag) (own : ∀ copy ∈ mine, copy.tag = tag) :
    (c.replace tag payload).copies.Perm
      (others ++ List.replicate mine.length ⟨tag, payload⟩) := by
  rw [copies_replace]
  refine (h.map _).trans (List.Perm.of_eq ?_)
  rw [List.map_append]
  congr 1
  · rw [List.map_congr_left fun copy member => if_neg (foreign copy member), List.map_id']
  · rw [List.map_congr_left fun copy member => if_pos (own copy member), List.map_const']

/-- Slot by slot, the same copies under tags other than these; and if the page on air is one of
them, it stays on air. -/
structure SameBut (tags : List PageTag) (c d : Carousel) : Prop where
  capacity : d.capacity = c.capacity
  others : ∀ (i : Nat) (copy : PageCopy), copy.tag ∉ tags →
    (d.slots[i]? = some (some copy) ↔ c.slots[i]? = some (some copy))
  aired : ∀ copy, copy.tag ∉ tags → c.current? = some copy →
    d.cursor = c.cursor ∧ d.outgoing = c.outgoing

theorem SameBut.refl (tags : List PageTag) (c : Carousel) : c.SameBut tags c :=
  ⟨rfl, fun _ _ _ => Iff.rfl, fun _ _ _ => ⟨rfl, rfl⟩⟩

theorem SameBut.trans {tags : List PageTag} {d e : Carousel} (first : c.SameBut tags d)
    (rest : d.SameBut tags e) : c.SameBut tags e := by
  refine ⟨rest.capacity.trans first.capacity, fun i copy foreign =>
    (rest.others i copy foreign).trans (first.others i copy foreign), fun copy foreign on => ?_⟩
  obtain ⟨cursor, outgoing⟩ := first.aired copy foreign on
  have still : d.current? = some copy := by
    have slot := (first.others c.cursor copy foreign).2 (Option.join_eq_some_iff.1 on)
    rw [current?, cursor, slot]
    rfl
  obtain ⟨cursor', outgoing'⟩ := rest.aired copy foreign still
  exact ⟨cursor'.trans cursor, outgoing'.trans outgoing⟩

theorem mem_copies_of_current? {copy : PageCopy} (on : c.current? = some copy) :
    copy ∈ c.copies :=
  List.mem_filterMap.2 ⟨some copy, List.mem_of_getElem? (Option.join_eq_some_iff.1 on), rfl⟩

theorem slot_fill {copy other : PageCopy} (apart : other ≠ copy) (n i : Nat)
    (slots : List (Option PageCopy)) :
    (fill copy n slots)[i]? = some (some other) ↔ slots[i]? = some (some other) := by
  fun_induction fill copy n slots generalizing i with
  | case1 => rfl
  | case2 => rfl
  | case3 n rest ih =>
    cases i with
    | zero => simp [apart.symm]
    | succ i => simpa using ih i
  | case4 n slot rest _ ih =>
    cases i with
    | zero => rfl
    | succ i => simpa using ih i

theorem sameBut_add {tags : List PageTag} {tag : PageTag} {payload : Payload} {replicas : Nat}
    {d : Carousel} (own : tag ∈ tags) (added : c.add tag payload replicas = .ok d) :
    c.SameBut tags d := by
  have kept : ∀ (i : Nat) (copy : PageCopy), copy.tag ∉ tags →
      ((fill ⟨tag, payload⟩ replicas c.slots)[i]? = some (some copy) ↔
        c.slots[i]? = some (some copy)) := fun i copy foreign =>
    slot_fill (fun same => foreign (by rw [same]; exact own)) replicas i c.slots
  unfold add at added
  split at added
  · contradiction
  · split at added
    · next empty =>
      obtain rfl := Except.ok.inj added
      refine ⟨by simp [capacity], kept, fun copy foreign on => ?_⟩
      have := List.length_pos_of_mem (mem_copies_of_current? on)
      exact absurd empty.1 (Nat.pos_iff_ne_zero.1 this)
    · obtain rfl := Except.ok.inj added
      exact ⟨by simp [capacity], kept, fun _ _ _ => ⟨rfl, rfl⟩⟩

theorem sameBut_remove {tags : List PageTag} {tag : PageTag} (own : tag ∈ tags) :
    c.SameBut tags (c.remove tag) := by
  have apart : ∀ {copy : PageCopy}, copy.tag ∉ tags → copy.tag ≠ tag :=
    fun foreign same => foreign (same ▸ own)
  refine ⟨by simp, fun i copy foreign => ?_, fun copy foreign on => ?_⟩
  · rw [slots_remove, List.getElem?_map, Option.map_eq_some_iff]
    constructor
    · rintro ⟨slot, found, left⟩
      exact found.trans (congrArg some (Option.filter_eq_some_iff.1 left).1)
    · intro found
      exact ⟨some copy, found, Option.filter_eq_some_iff.2 ⟨rfl, by simpa using apart foreign⟩⟩
  · have left : copy ∈ (c.remove tag).copies := by
      rw [copies_remove]
      exact List.mem_filter.2 ⟨mem_copies_of_current? on, by simpa using apart foreign⟩
    unfold remove at left ⊢
    simp only at left ⊢
    split
    · next empty =>
      rw [if_pos empty] at left
      exact absurd empty (Nat.pos_iff_ne_zero.1 (List.length_pos_of_mem left))
    · exact ⟨rfl, rfl⟩

theorem sameBut_replace {tags : List PageTag} {tag : PageTag} (payload : Payload)
    (own : tag ∈ tags) : c.SameBut tags (c.replace tag payload) := by
  have apart : ∀ {copy : PageCopy}, copy.tag ∉ tags → copy.tag ≠ tag :=
    fun foreign same => foreign (same ▸ own)
  refine ⟨by simp, fun i copy foreign => ?_, fun copy foreign on => ?_⟩
  · change (c.slots.map (overwrite tag payload))[i]? = _ ↔ _
    rw [List.getElem?_map, Option.map_eq_some_iff]
    constructor
    · rintro ⟨slot, found, left⟩
      obtain ⟨old, rfl, changed⟩ := Option.map_eq_some_iff.1 left
      split at changed
      · exact absurd (congrArg PageCopy.tag changed).symm (apart foreign)
      · exact changed ▸ found
    · intro found
      exact ⟨some copy, found, by simp [overwrite, apart foreign]⟩
  · simp [replace, on, apart foreign]

theorem sameBut_handle {tags : List PageTag} {request : Request} {d : Carousel}
    (own : request.tag ∈ tags) (handled : c.handle request = .ok d) : c.SameBut tags d := by
  cases request with
  | broadcast => exact sameBut_add own handled
  | cancel => exact Except.ok.inj handled ▸ sameBut_remove own
  | replace => exact Except.ok.inj handled ▸ sameBut_replace _ own

theorem sameBut_serve {tags : List PageTag} {requests : List Request}
    (own : ∀ request ∈ requests, request.tag ∈ tags) : c.SameBut tags (c.serve requests).2 := by
  fun_induction serve c requests with
  | case1 c => exact .refl tags c
  | case2 c request rest d handled ih =>
    exact (sameBut_handle (own request List.mem_cons_self) handled).trans
      (ih fun later member => own later (List.mem_cons_of_mem _ member))
  | case3 c => exact .refl tags c

end Carousel

end WildlifeWarning
