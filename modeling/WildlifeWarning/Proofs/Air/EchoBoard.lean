import WildlifeWarning.Air.EchoBoard
import WildlifeWarning.Proofs.Air.Copies

/-! The copies that an echo board has on air: as many of every broadcasting slot as its replicas. -/

namespace WildlifeWarning.EchoBoard

variable {κ : Type}

def pages (b : EchoBoard κ) : List PageCopy := b.airing.map fun s => ⟨b.tag, s.payload⟩

def due (b : EchoBoard κ) : List PageCopy := b.pages.flatMap (List.replicate b.replicas)

theorem tag_of_mem_due {b : EchoBoard κ} {copy : PageCopy} (h : copy ∈ b.due) :
    copy.tag = b.tag := by
  obtain ⟨page, member, same⟩ := List.mem_flatMap.1 h
  obtain ⟨_, _, rfl⟩ := List.mem_map.1 member
  rw [List.eq_of_mem_replicate same]

theorem length_copies (replicas : Nat) (pages : List PageCopy) :
    (pages.flatMap (List.replicate replicas)).length = pages.length * replicas := by
  induction pages with
  | nil => simp
  | cons page rest ih =>
    rw [List.flatMap_cons, List.length_append, List.length_replicate, ih, List.length_cons,
      Nat.succ_mul, Nat.add_comm]

theorem length_due (b : EchoBoard κ) : b.due.length = b.airing.length * b.replicas := by
  rw [due, length_copies, pages, List.length_map]

theorem length_airing_le (b : EchoBoard κ) : b.airing.length ≤ b.slots.length :=
  List.length_filter_le _ _

/-- What `fresh` may have become by publications and acknowledgments. -/
structure Serves (fresh b : EchoBoard κ) : Prop where
  same : b = { fresh with slots := b.slots, nextId := b.nextId }
  fits : b.slots.length ≤ fresh.capacity

theorem serves_self {b : EchoBoard κ} (fits : b.slots.length ≤ b.capacity) : b.Serves b :=
  ⟨rfl, fits⟩

theorem Serves.name_eq {fresh b : EchoBoard κ} (h : fresh.Serves b) : b.name = fresh.name := by
  rw [h.same]

theorem Serves.tag_eq {fresh b : EchoBoard κ} (h : fresh.Serves b) : b.tag = fresh.tag := by
  rw [h.same]

theorem Serves.replicas_eq {fresh b : EchoBoard κ} (h : fresh.Serves b) :
    b.replicas = fresh.replicas := by
  rw [h.same]

theorem Serves.length_due_le {fresh b : EchoBoard κ} (h : fresh.Serves b) :
    b.due.length ≤ fresh.capacity * fresh.replicas := by
  rw [length_due, h.replicas_eq]
  exact Nat.mul_le_mul_right _ (Nat.le_trans (length_airing_le b) h.fits)

variable {c : Carousel} {others mine : List PageCopy}

theorem airs_anew {b : EchoBoard κ} (h : c.copies.Perm (others ++ mine))
    (foreign : ∀ copy ∈ others, copy.tag ≠ b.tag) (own : ∀ copy ∈ mine, copy.tag = b.tag)
    (room : others.length + b.airing.length * b.replicas ≤ c.capacity) :
    c.Airs b.airAnew (others ++ b.due) := by
  have cleared := Carousel.copies_remove_own h foreign own
  have requests : b.airAnew = .cancel b.tag :: b.pages.map (PageCopy.request b.replicas) := by
    rw [airAnew, pages, List.map_map]
    rfl
  rw [requests]
  refine Carousel.airs_cons rfl (by simp) (Carousel.airs_requests _ _ cleared ?_)
  simpa [pages] using room

variable [DecidableEq κ]

theorem filter_store_of_alone {slots : List (EchoSlot κ)} {s : EchoSlot κ} (slot : EchoSlot κ)
    (found : slots.find? (fun t => t.key == slot.key) = some s) (airs : s.onAir = true)
    (alone : (slots.filter (·.onAir)).length = 1) (onAir : slot.onAir = true) :
    (Keyed.store EchoSlot.key slots slot).filter (·.onAir) = [slot] := by
  induction slots with
  | nil => contradiction
  | cons first rest ih =>
    by_cases same : first.key = slot.key
    · have : first = s := by simpa [same] using found
      subst this
      have silent : rest.filter (·.onAir) = [] := by simpa [airs] using alone
      rw [Keyed.store, if_pos same, List.filter_cons_of_pos onAir, silent]
    · have later : rest.find? (fun t => t.key == slot.key) = some s := by
        simpa [List.find?_cons, same] using found
      have heard : s ∈ rest.filter (·.onAir) :=
        List.mem_filter.2 ⟨List.mem_of_find?_eq_some later, airs⟩
      have occupied : 0 < (rest.filter (·.onAir)).length := List.length_pos_of_mem heard
      have off : ¬first.onAir = true := by
        intro on
        rw [List.filter_cons_of_pos (by simpa using on), List.length_cons] at alone
        omega
      rw [List.filter_cons_of_neg off] at alone
      rw [Keyed.store, if_neg same, List.filter_cons_of_neg off]
      exact ih later alone

def freshId (b : EchoBoard κ) (key : κ) : UInt8 := (freeId (b.isTaken key) 256 b.nextId).1

theorem publish_cases {b next : EchoBoard κ} {key : κ} {build : UInt8 → Payload}
    {requests : List Request} (h : b.publish key build = .ok (next, requests)) :
    ∃ nextId, next = { b with
        slots :=
          Keyed.store EchoSlot.key b.slots ⟨key, b.freshId key, build (b.freshId key), true⟩
        nextId } ∧
      ((∃ s, b.find? key = some s ∧ s.onAir = true ∧ b.airing.length = 1 ∧
          requests = [.replace b.tag (build (b.freshId key))]) ∨ requests = next.airAnew) ∧
      (b.find? key = none → b.slots.length < b.capacity) := by
  unfold publish at h
  simp only at h
  split at h
  · contradiction
  · next room =>
    obtain ⟨rfl, rfl⟩ := Prod.mk.inj (Except.ok.inj h)
    refine ⟨_, rfl, ?_, fun new => ?_⟩
    · cases found : b.find? key with
      | none => exact .inr (by simp)
      | some s =>
        by_cases alone : s.onAir = true ∧ b.airing.length = 1
        · exact .inl ⟨s, rfl, alone.1, alone.2, by simp [alone.1, alone.2, freshId]⟩
        · exact .inr (by simp_all)
    · simpa [new] using room

theorem fault_of_publish {b : EchoBoard κ} {key : κ} {build : UInt8 → Payload} {fault : Fault}
    (h : b.publish key build = .error fault) : fault = .capacityExhausted b.name b.capacity := by
  unfold publish at h
  simp only at h
  split at h
  · exact (Except.error.inj h).symm
  · contradiction

theorem unknown_of_publish {b : EchoBoard κ} {key : κ} {build : UInt8 → Payload} {fault : Fault}
    (h : b.publish key build = .error fault) :
    key ∉ b.slots.map EchoSlot.key ∧ b.capacity ≤ b.slots.length := by
  unfold publish at h
  simp only at h
  split at h
  · next full =>
    have unknown := List.find?_eq_none.1 (Option.isNone_iff_eq_none.1 full.1)
    exact ⟨by simpa using unknown, full.2⟩
  · contradiction

theorem serves_publish {fresh b next : EchoBoard κ} {key : κ} {build : UInt8 → Payload}
    {requests : List Request} (h : b.publish key build = .ok (next, requests))
    (serves : fresh.Serves b) : fresh.Serves next := by
  obtain ⟨nextId, rfl, -, room⟩ := publish_cases h
  refine ⟨by rw [serves.same], ?_⟩
  rw [← List.length_map EchoSlot.key, Keyed.map_key_store]
  split
  · rw [List.length_map]
    exact serves.fits
  · next new =>
    have capacity : b.capacity = fresh.capacity := by rw [serves.same]
    have unknown : b.find? key = none := List.find?_eq_none.2 (by simpa using new)
    have := capacity ▸ room unknown
    simp only [List.length_append, List.length_map, List.length_singleton]
    omega

theorem airs_publish {fresh b next : EchoBoard κ} {key : κ} {build : UInt8 → Payload}
    {requests : List Request} (h : b.publish key build = .ok (next, requests))
    (serves : fresh.Serves b) (held : c.copies.Perm (others ++ b.due))
    (foreign : ∀ copy ∈ others, copy.tag ≠ fresh.tag)
    (room : others.length + fresh.capacity * fresh.replicas ≤ c.capacity) :
    c.Airs requests (others ++ next.due) := by
  have anew_le := (serves_publish h serves).length_due_le
  rw [length_due] at anew_le
  rw [← serves.tag_eq] at foreign
  obtain ⟨nextId, rfl, alone | anew, -⟩ := publish_cases h
  · obtain ⟨s, found, airs, single, rfl⟩ := alone
    have replaced := Carousel.copies_replace_own b.tag (build (b.freshId key)) held foreign
      fun _ => tag_of_mem_due
    refine Carousel.airs_cons rfl (by simp) (Carousel.airs_nil (replaced.trans (.of_eq ?_)))
    have stored := filter_store_of_alone ⟨key, b.freshId key, build (b.freshId key), true⟩
      found airs single rfl
    rw [length_due, single, Nat.one_mul]
    simp [due, pages, airing, stored]
  · subst anew
    refine airs_anew held foreign (fun _ => tag_of_mem_due) (Nat.le_trans ?_ room)
    exact Nat.add_le_add_left anew_le _

omit [DecidableEq κ] in
@[simp] theorem length_retire (id : UInt8) (slots : List (EchoSlot κ)) :
    (retire id slots).length = slots.length := by
  fun_induction retire id slots <;> simp_all

omit [DecidableEq κ] in
@[simp] theorem map_key_retire (id : UInt8) (slots : List (EchoSlot κ)) :
    (retire id slots).map EchoSlot.key = slots.map EchoSlot.key := by
  fun_induction retire id slots <;> simp_all

omit [DecidableEq κ] in
theorem acknowledge_eq_some {b next : EchoBoard κ} {a : Acknowledgement} {requests : List Request}
    (acknowledged : b.acknowledge a = some (next, requests)) :
    a.page = b.tag ∧ (∃ s ∈ b.slots, s.onAir = true ∧ s.messageId = a.messageId) ∧
      next = { b with slots := retire a.messageId b.slots } ∧ requests = next.airAnew := by
  unfold acknowledge at acknowledged
  split at acknowledged
  · next named =>
    obtain ⟨rfl, rfl⟩ := Prod.mk.inj (Option.some.inj acknowledged)
    exact ⟨named.1, by simpa using named.2, rfl, rfl⟩
  · contradiction

omit [DecidableEq κ] in
theorem serves_acknowledge {fresh b next : EchoBoard κ} {a : Acknowledgement}
    {requests : List Request} (acknowledged : b.acknowledge a = some (next, requests))
    (serves : fresh.Serves b) : fresh.Serves next := by
  obtain ⟨-, -, rfl, -⟩ := acknowledge_eq_some acknowledged
  exact ⟨by rw [serves.same], by simpa using serves.fits⟩

omit [DecidableEq κ] in
theorem airs_acknowledge {fresh b next : EchoBoard κ} {a : Acknowledgement}
    {requests : List Request} (acknowledged : b.acknowledge a = some (next, requests))
    (serves : fresh.Serves b) (held : c.copies.Perm (others ++ b.due))
    (foreign : ∀ copy ∈ others, copy.tag ≠ fresh.tag)
    (room : others.length + fresh.capacity * fresh.replicas ≤ c.capacity) :
    fresh.Serves next ∧ c.Airs requests (others ++ next.due) := by
  have still := serves_acknowledge acknowledged serves
  have anew_le := still.length_due_le
  rw [length_due] at anew_le
  rw [← serves.tag_eq] at foreign
  obtain ⟨-, -, rfl, rfl⟩ := acknowledge_eq_some acknowledged
  refine ⟨still, airs_anew held foreign (fun _ => tag_of_mem_due) (Nat.le_trans ?_ room)⟩
  exact Nat.add_le_add_left anew_le _

end WildlifeWarning.EchoBoard
