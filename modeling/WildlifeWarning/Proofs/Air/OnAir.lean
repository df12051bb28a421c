import WildlifeWarning.Proofs.Air.Copies

/-! Which page is on air.
A period puts the page of the next occupied slot there. A request may put one there at once, the
first on an empty carousel or one that overwrites the page at the cursor, or leave silence behind;
otherwise the page of before stays, even if its copies are gone. -/

namespace WildlifeWarning

def Request.page? : Request → Option Payload
  | broadcast _ payload _ => some payload
  | cancel _ => none
  | replace _ payload => some payload

namespace Carousel

/-- The request puts another page on air at once, or none. -/
def renews (c : Carousel) : Request → Bool
  | .broadcast _ _ replicas => c.occupied == 0 && replicas != 0
  | .cancel tag => (c.remove tag).occupied == 0
  | .replace tag _ => c.current?.any fun copy => copy.tag == tag

/-- The page on air is the one at the cursor, or silence where there is none. -/
def Current (c : Carousel) : Prop :=
  c.outgoing = (c.current?.map PageCopy.payload).getD Payload.silence

variable {c d : Carousel} {request : Request}

theorem current?_of_copies (empty : c.copies = []) : c.current? = none := by
  cases on : c.current? with
  | none => rfl
  | some copy =>
    have member := mem_copies_of_current? on
    rw [empty] at member
    contradiction

theorem current_rotate (c : Carousel) : c.rotate.Current := by
  unfold rotate
  split
  · next i payload found =>
    obtain ⟨j, -, aired⟩ := List.exists_of_findSome?_eq_some found
    obtain ⟨copy, slot, same⟩ := Option.map_eq_some_iff.1 aired
    obtain ⟨rfl, rfl⟩ := Prod.mk.inj same
    simp only [Current, current?, slot, Option.map_some, Option.getD_some]
  · next vacant =>
    -- The last place that is tried is the cursor's own.
    have here : c.current? = none := by
      by_cases within : c.cursor < c.capacity
      · have own : c.cursor ∈ c.order := by
          refine List.mem_map.2 ⟨c.capacity - 1, List.mem_range.2 (by omega), ?_⟩
          rw [Nat.sub_add_cancel (by omega), Nat.add_mod_right, Nat.mod_eq_of_lt within]
        have free := List.findSome?_eq_none_iff.1 vacant c.cursor own
        simpa [current?] using free
      · rw [current?, List.getElem?_eq_none (Nat.not_lt.1 within)]
        rfl
    have same : ({ c with outgoing := Payload.silence } : Carousel).current? = none := here
    simp only [Current, same, Option.map_none, Option.getD_none]

theorem head_fill {copy : PageCopy} {n : Nat} {slots : List (Option PageCopy)}
    (some_copy : n ≠ 0) (some_slot : slots ≠ []) (free : slots.filterMap id = []) :
    (fill copy n slots)[0]? = some (some copy) := by
  cases n with
  | zero => contradiction
  | succ n =>
    cases slots with
    | nil => contradiction
    | cons slot rest =>
      cases slot with
      | none => rfl
      | some other => simp at free

theorem outgoing_remove (c : Carousel) (tag : PageTag) :
    (c.remove tag).outgoing =
      if (c.remove tag).occupied = 0 then Payload.silence else c.outgoing := by
  have same : (c.remove tag).occupied =
      ({ c with slots := c.slots.map (dropTag tag) } : Carousel).occupied := by
    simp only [occupied, copies, slots_remove]
  rw [same, remove]
  split <;> rfl

theorem outgoing_handle (handled : c.handle request = .ok d) :
    (c.renews request → d.Current) ∧ (c.renews request = false → d.outgoing = c.outgoing) := by
  cases request with
  | broadcast tag payload replicas =>
    simp only [handle, add] at handled
    split at handled
    · contradiction
    · next room =>
      split at handled
      · next first =>
        obtain rfl := Except.ok.inj handled
        have on : (fill ⟨tag, payload⟩ replicas c.slots)[0]? = some (some ⟨tag, payload⟩) := by
          refine head_fill (by omega) ?_ (List.length_eq_zero_iff.1 first.1)
          intro none
          simp only [capacity, none, List.length_nil] at room
          omega
        refine ⟨fun _ => ?_, fun stays => ?_⟩
        · simp only [Current, current?, on]
          rfl
        · simp [renews, first.1] at stays
          omega
      · next later =>
        obtain rfl := Except.ok.inj handled
        refine ⟨fun renewed => ?_, fun _ => rfl⟩
        simp [renews] at renewed
        omega
  | cancel tag =>
    obtain rfl := Except.ok.inj handled
    have outgoing := outgoing_remove c tag
    constructor
    · intro renewed
      have empty : (c.remove tag).occupied = 0 := by simpa [renews] using renewed
      rw [if_pos empty] at outgoing
      rw [Current, current?_of_copies (List.length_eq_zero_iff.1 empty), outgoing]
      rfl
    · intro stays
      have left : (c.remove tag).occupied ≠ 0 := by simpa [renews] using stays
      rwa [if_neg left] at outgoing
  | replace tag payload =>
    obtain rfl := Except.ok.inj handled
    have now : (c.replace tag payload).current? = c.current?.map fun copy =>
        if copy.tag = tag then ⟨tag, payload⟩ else copy := by
      simp only [current?, replace, List.getElem?_map]
      cases c.slots[c.cursor]? with
      | none => rfl
      | some slot => cases slot <;> rfl
    cases on : c.current? with
    | none => simp [renews, replace, on]
    | some copy =>
      rw [on, Option.map_some] at now
      by_cases own : copy.tag = tag
      · have shown : (c.replace tag payload).outgoing = payload := by simp [replace, on, own]
        refine ⟨fun _ => ?_, fun stays => ?_⟩
        · rw [Current, shown, now, if_pos own]
          rfl
        · simp [renews, on, own] at stays
      · simp [renews, replace, on, own]

theorem mem_copies_fill {copy other : PageCopy} {n : Nat} {slots : List (Option PageCopy)}
    (member : other ∈ (fill copy n slots).filterMap id) :
    other ∈ slots.filterMap id ∨ other = copy := by
  by_cases same : other = copy
  · exact .inr same
  · obtain ⟨slot, among, rfl⟩ := List.mem_filterMap.1 member
    obtain ⟨i, found⟩ := List.mem_iff_getElem?.1 among
    have before := (slot_fill same n i slots).1 found
    exact .inl (List.mem_filterMap.2 ⟨some other, List.mem_of_getElem? before, rfl⟩)

theorem mem_copies_handle (handled : c.handle request = .ok d) {copy : PageCopy}
    (member : copy ∈ d.copies) :
    copy ∈ c.copies ∨ ∃ payload, request.page? = some payload ∧ copy = ⟨request.tag, payload⟩ := by
  cases request with
  | broadcast tag payload replicas =>
    have filled : d.copies = (fill ⟨tag, payload⟩ replicas c.slots).filterMap id := by
      simp only [handle, add] at handled
      split at handled
      · contradiction
      · split at handled
        · rw [← Except.ok.inj handled]
          rfl
        · rw [← Except.ok.inj handled]
          rfl
    rw [filled] at member
    exact (mem_copies_fill member).imp id fun new => ⟨payload, rfl, new⟩
  | cancel tag =>
    obtain rfl := Except.ok.inj handled
    rw [copies_remove] at member
    exact .inl (List.mem_filter.1 member).1
  | replace tag payload =>
    obtain rfl := Except.ok.inj handled
    rw [copies_replace] at member
    obtain ⟨old, among, changed⟩ := List.mem_map.1 member
    split at changed
    · exact .inr ⟨payload, rfl, changed.symm⟩
    · exact .inl (changed ▸ among)

end Carousel

end WildlifeWarning
