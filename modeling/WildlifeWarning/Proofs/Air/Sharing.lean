import WildlifeWarning.Proofs.Air.Copies

/-! A carousel that several senders share, seen by one of them.
The copies under its own tags are its own doing: what the others ask for does not touch them. Where
the copies lie does not matter to what is granted, so carousels with the same copies stay alike. -/

namespace WildlifeWarning.Carousel

def under (c : Carousel) (own : PageTag → Bool) : List PageCopy :=
  c.copies.filter fun copy => own copy.tag

def beside (c : Carousel) (own : PageTag → Bool) : List PageCopy :=
  c.copies.filter fun copy => !own copy.tag

variable {c d : Carousel} {own : PageTag → Bool} {tag : PageTag}

theorem perm_beside_under (c : Carousel) (own : PageTag → Bool) :
    c.copies.Perm (c.beside own ++ c.under own) :=
  (List.filter_append_perm (fun copy : PageCopy => own copy.tag) c.copies).symm.trans
    List.perm_append_comm

theorem under_of_perm {others mine : List PageCopy} (held : c.copies.Perm (others ++ mine))
    (foreign : ∀ copy ∈ others, own copy.tag = false) (ours : ∀ copy ∈ mine, own copy.tag) :
    (c.under own).Perm mine ∧ (c.beside own).Perm others := by
  refine ⟨(held.filter _).trans (.of_eq ?_), (held.filter _).trans (.of_eq ?_)⟩
  · rw [List.filter_append, List.filter_eq_nil_iff.2 (by simpa using foreign),
      List.filter_eq_self.2 ours, List.nil_append]
  · rw [List.filter_append, List.filter_eq_self.2 (by simpa using foreign),
      List.filter_eq_nil_iff.2 (by simpa using ours), List.append_nil]

theorem served_of_isOk {requests : List Request} (granted : (c.serve requests).1.isOk) :
    (c.serve requests).1 = .ok () := by
  cases result : (c.serve requests).1 with
  | error fault => simp [result, Except.isOk, Except.toBool] at granted
  | ok done => rfl

theorem length_copies_le (c : Carousel) : c.copies.length ≤ c.capacity :=
  List.length_filterMap_le _ _

theorem add_cases (c : Carousel) (tag : PageTag) (payload : Payload) (n : Nat) :
    (c.copies.length + n ≤ c.capacity ∧ ∃ d, c.add tag payload n = .ok d ∧
      d.capacity = c.capacity ∧ d.copies.Perm (c.copies ++ List.replicate n ⟨tag, payload⟩)) ∨
    (c.capacity < c.copies.length + n ∧
      c.add tag payload n = .error (.capacityExhausted "page pool" c.capacity)) := by
  by_cases room : c.copies.length + n ≤ c.capacity
  · exact .inl ⟨room, add_of_room tag payload room⟩
  · have := length_copies_le c
    exact .inr ⟨Nat.not_le.1 room, if_pos (by simp only [occupied]; omega)⟩

theorem under_add {payload : Payload} {n : Nat} (ours : own tag)
    (added : c.add tag payload n = .ok d) :
    (d.under own).Perm (c.under own ++ List.replicate n ⟨tag, payload⟩) := by
  rcases add_cases c tag payload n with ⟨-, e, same, -, copies⟩ | ⟨-, refused⟩
  · obtain rfl := Except.ok.inj (added.symm.trans same)
    refine (copies.filter _).trans (.of_eq ?_)
    rw [List.filter_append, List.filter_replicate, if_pos ours]
    rfl
  · exact absurd (added.symm.trans refused) (by simp)

theorem under_requests {pages : List PageCopy} {n : Nat} (ours : ∀ copy ∈ pages, own copy.tag)
    (granted : (c.serve (pages.map (PageCopy.request n))).1 = .ok ()) :
    ((c.serve (pages.map (PageCopy.request n))).2.under own).Perm
      (c.under own ++ pages.flatMap (List.replicate n)) := by
  induction pages generalizing c with
  | nil => simp [serve]
  | cons page rest ih =>
    simp only [List.map_cons, serve, handle, PageCopy.request] at granted ⊢
    cases added : c.add page.tag page.payload n with
    | error fault =>
      rw [added] at granted
      contradiction
    | ok d =>
      rw [added] at granted
      have first := under_add (ours page List.mem_cons_self) added
      refine (ih (fun copy later => ours copy (List.mem_cons_of_mem _ later)) granted).trans ?_
      rw [List.flatMap_cons, ← List.append_assoc]
      exact first.append_right _

theorem under_remove (c : Carousel) (own : PageTag → Bool) (tag : PageTag) :
    (c.remove tag).under own = (c.under own).filter fun copy => copy.tag ≠ tag := by
  rw [under, under, copies_remove, List.filter_comm]

theorem under_replace (c : Carousel) (own : PageTag → Bool) (tag : PageTag) (payload : Payload) :
    (c.replace tag payload).under own =
      (c.under own).map fun copy => if copy.tag = tag then ⟨tag, payload⟩ else copy := by
  simp only [under, copies_replace, List.filter_map]
  congr 1
  refine List.filter_congr fun copy _ => ?_
  simp only [Function.comp_apply]
  split
  · next same => rw [same]
  · rfl

theorem tag_ne_of_mem_under (foreign : own tag = false) {copy : PageCopy}
    (member : copy ∈ c.under own) : copy.tag ≠ tag := by
  rintro rfl
  have ours := (List.mem_filter.1 member).2
  simp [foreign] at ours

theorem under_serve {request : Request} (foreign : own request.tag = false) :
    ((c.serve [request]).2.under own).Perm (c.under own) := by
  cases request with
  | broadcast other payload replicas =>
    have foreign : own other = false := foreign
    simp only [serve, handle]
    rcases add_cases c other payload replicas with ⟨-, d, added, -, copies⟩ | ⟨-, refused⟩
    · rw [added]
      refine (copies.filter _).trans (.of_eq ?_)
      rw [List.filter_append, List.filter_replicate, if_neg (by simp [foreign]), List.append_nil]
      rfl
    · rw [refused]
  | cancel other =>
    have apart : ∀ copy ∈ c.under own, copy.tag ≠ other := fun _ => tag_ne_of_mem_under foreign
    exact .of_eq ((under_remove c own other).trans
      (List.filter_eq_self.2 fun copy member => decide_eq_true (apart copy member)))
  | replace other payload =>
    have apart : ∀ copy ∈ c.under own, copy.tag ≠ other := fun _ => tag_ne_of_mem_under foreign
    exact .of_eq ((under_replace c own other payload).trans
      ((List.map_congr_left fun copy member => if_neg (apart copy member)).trans (List.map_id' _)))

/-- Of the same capacity and with the same copies, in whatever slots. -/
structure Alike (c d : Carousel) : Prop where
  capacity : d.capacity = c.capacity
  copies : d.copies.Perm c.copies

theorem Alike.refl (c : Carousel) : c.Alike c := ⟨rfl, .refl _⟩

theorem alike_serve (alike : c.Alike d) (request : Request) :
    (c.serve [request]).2.Alike (d.serve [request]).2 := by
  cases request with
  | broadcast tag payload replicas =>
    simp only [serve, handle]
    have room : d.copies.length + replicas ≤ d.capacity ↔
        c.copies.length + replicas ≤ c.capacity := by
      rw [alike.copies.length_eq, alike.capacity]
    rcases add_cases c tag payload replicas with
      ⟨fits, c', added, capacity, copies⟩ | ⟨full, refused⟩
    · obtain ⟨d', added', capacity', copies'⟩ := add_of_room tag payload (room.2 fits)
      rw [added, added']
      exact ⟨capacity'.trans (alike.capacity.trans capacity.symm),
        copies'.trans ((alike.copies.append_right _).trans copies.symm)⟩
    · rcases add_cases d tag payload replicas with ⟨fits, -⟩ | ⟨-, refused'⟩
      · exact absurd (room.1 fits) (Nat.not_le.2 full)
      · rw [refused, refused']
        exact alike
  | cancel tag =>
    refine ⟨by simpa [serve, handle] using alike.capacity, ?_⟩
    simp only [serve, handle, copies_remove]
    exact alike.copies.filter _
  | replace tag payload =>
    refine ⟨by simpa [serve, handle] using alike.capacity, ?_⟩
    simp only [serve, handle, copies_replace]
    exact alike.copies.map _

theorem alike_rotate (alike : c.Alike d) : c.rotate.Alike d.rotate := by
  refine ⟨?_, ?_⟩
  · simpa only [Carousel.capacity, slots_rotate] using alike.capacity
  · simpa only [Carousel.copies, slots_rotate] using alike.copies

theorem alike_of_airs {requests others : List Request} {goal : List PageCopy}
    (alike : c.Alike d) (first : c.Airs requests goal) (second : d.Airs others goal) :
    (c.serve requests).2.Alike (d.serve others).2 := by
  obtain ⟨-, capacity, copies⟩ := first
  obtain ⟨-, capacity', copies'⟩ := second
  exact ⟨capacity'.trans (alike.capacity.trans capacity.symm), copies'.trans copies.symm⟩

end WildlifeWarning.Carousel
