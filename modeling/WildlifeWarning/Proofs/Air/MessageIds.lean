import WildlifeWarning.Proofs.Air.Broadcast

/-! Which id a subject gets that is on air already.
A board steps over the ids of the other subjects only, and its counter wraps. So the id a subject
holds comes back once all the other ids are gone through, and from then on an acknowledgment of the
page before names the one that took its place. -/

namespace WildlifeWarning.EchoBoard

variable {κ : Type}

inductive Call (κ : Type) where
  | publish (key : κ) (build : UInt8 → Payload)
  | acknowledge (a : Acknowledgement)

def Call.subject? : Call κ → Option κ
  | .publish key _ => some key
  | .acknowledge _ => none

variable [DecidableEq κ] {fresh b next : EchoBoard κ} {key other : κ} {build : UInt8 → Payload}
  {a : Acknowledgement} {requests : List Request} {s : EchoSlot κ} {own : UInt8}

/-- A refused publication and an acknowledgment that names no slot leave the board as it is. -/
def take (b : EchoBoard κ) : Call κ → EchoBoard κ
  | .publish key build =>
    match b.publish key build with
    | .ok (next, _) => next
    | .error _ => b
  | .acknowledge a => ((b.acknowledge a).map Prod.fst).getD b

def after (b : EchoBoard κ) (calls : List (Call κ)) : EchoBoard κ := inTurn take b calls

theorem nextId_publish (published : b.publish key build = .ok (next, requests)) :
    next.nextId = (freeId (b.isTaken key) 256 b.nextId).2 := by
  unfold publish at published
  simp only at published
  split at published
  · contradiction
  · obtain ⟨rfl, -⟩ := Prod.mk.inj (Except.ok.inj published)
    rfl

theorem skipped_of_publish (free : b.isTaken key (b.freshId key) = false)
    (published : b.publish key build = .ok (next, requests)) :
    ∃ skipped, (∀ n < skipped, b.isTaken key (b.nextId + UInt8.ofNat n)) ∧
      b.freshId key = b.nextId + UInt8.ofNat skipped ∧
      next.nextId = b.nextId + UInt8.ofNat (skipped + 1) := by
  obtain ⟨skipped, le, before, stops, counter⟩ := freeId_cases (b.isTaken key) 256 b.nextId
  have within : skipped < 256 := by
    refine Nat.lt_of_le_of_ne le ?_
    rintro rfl
    have round : b.freshId key = b.nextId := stops.trans (UInt8.add_zero _)
    have busy := before 0 (by decide)
    rw [show b.nextId + UInt8.ofNat 0 = b.nextId from UInt8.add_zero _, ← round, free] at busy
    contradiction
  refine ⟨skipped, before, stops, ?_⟩
  rw [nextId_publish published, (counter within).2, stops, UInt8.add_assoc, UInt8.ofNat_add]
  rfl

structure Became (fresh b : EchoBoard κ) : Prop where
  serves : fresh.Serves b
  apart : b.Apart

omit [DecidableEq κ] in
theorem Became.capacity_eq (became : fresh.Became b) : b.capacity = fresh.capacity := by
  rw [became.serves.same]

omit [DecidableEq κ] in
theorem Became.length_le (became : fresh.Became b) : b.slots.length ≤ b.capacity :=
  became.capacity_eq ▸ became.serves.fits

theorem Became.free (became : fresh.Became b) (few : fresh.capacity ≤ 255)
    (published : b.publish key build = .ok (next, requests)) :
    b.isTaken key (b.freshId key) = false :=
  free_of_publish became.length_le (by rw [became.capacity_eq]; omega) published

theorem Became.publish (became : fresh.Became b) (few : fresh.capacity ≤ 255)
    (published : b.publish key build = .ok (next, requests)) : fresh.Became next :=
  ⟨serves_publish published became.serves,
    apart_publish became.apart (became.free few published) published⟩

omit [DecidableEq κ] in
theorem became_self (empty : fresh.slots = []) : fresh.Became fresh :=
  ⟨serves_self (by simp [empty]), by simp [empty], by simp [empty]⟩

theorem Became.take (became : fresh.Became b) (few : fresh.capacity ≤ 255) (call : Call κ) :
    fresh.Became (b.take call) := by
  cases call with
  | publish key build =>
    simp only [EchoBoard.take]
    cases published : b.publish key build with
    | error fault => exact became
    | ok answer => exact became.publish few published
  | acknowledge a =>
    simp only [EchoBoard.take]
    cases acknowledged : b.acknowledge a with
    | none => exact became
    | some answer =>
      exact ⟨serves_acknowledge acknowledged became.serves,
        apart_acknowledge became.apart acknowledged⟩

theorem Became.after (became : fresh.Became b) (few : fresh.capacity ≤ 255)
    (calls : List (Call κ)) : fresh.Became (b.after calls) :=
  inTurn_induction (motive := fun _ b => fresh.Became b) became calls fun _ call _ _ became =>
    became.take few call

omit [DecidableEq κ] in
theorem keys_acknowledge (acknowledged : b.acknowledge a = some (next, requests)) :
    next.slots.map EchoSlot.key = b.slots.map EchoSlot.key := by
  obtain ⟨-, -, rfl, -⟩ := acknowledge_eq_some acknowledged
  exact map_key_retire _ _

theorem mem_keys_publish (published : b.publish key build = .ok (next, requests)) :
    other ∈ next.slots.map EchoSlot.key ↔ other = key ∨ other ∈ b.slots.map EchoSlot.key := by
  obtain ⟨nextId, rfl, -, -⟩ := publish_cases published
  rw [Keyed.map_key_store]
  split
  · next known =>
    refine ⟨.inr, ?_⟩
    rintro (rfl | old)
    · exact known
    · exact old
  · simp only [List.mem_append, List.mem_singleton, or_comm]

theorem mem_keys_take {call : Call κ} (quiet : call.subject? ≠ some key) :
    key ∈ (b.take call).slots.map EchoSlot.key ↔ key ∈ b.slots.map EchoSlot.key := by
  cases call with
  | publish other build =>
    have apart : key ≠ other := fun same => quiet (congrArg some same.symm)
    simp only [take]
    cases published : b.publish other build with
    | error fault => exact Iff.rfl
    | ok answer => exact (mem_keys_publish published).trans (or_iff_right apart)
  | acknowledge a =>
    simp only [take]
    cases acknowledged : b.acknowledge a with
    | none => exact Iff.rfl
    | some answer => exact iff_of_eq (congrArg (key ∈ ·) (keys_acknowledge acknowledged))

theorem mem_slots_publish (distinct : (b.slots.map EchoSlot.key).Nodup)
    (published : b.publish key build = .ok (next, requests)) :
    s ∈ next.slots ↔
      (s ∈ b.slots ∧ s.key ≠ key) ∨ s = ⟨key, b.freshId key, build (b.freshId key), true⟩ := by
  obtain ⟨nextId, rfl, -, -⟩ := publish_cases published
  have stored := Keyed.perm_store EchoSlot.key distinct
    ⟨key, b.freshId key, build (b.freshId key), true⟩
  simpa using stored.mem_iff

omit [DecidableEq κ] in
theorem mem_slots_acknowledge (acknowledged : b.acknowledge a = some (next, requests))
    (stored : s ∈ next.slots) (on : s.onAir) :
    ∃ t ∈ b.slots, t.key = s.key ∧ t.messageId = s.messageId ∧ t.onAir := by
  obtain ⟨-, -, rfl, -⟩ := acknowledge_eq_some acknowledged
  obtain ⟨t, before, key, id, -, on_t⟩ := mem_retire stored
  exact ⟨t, before, key, id, on_t on⟩

def idsBeside (key : κ) (b : EchoBoard κ) : List UInt8 :=
  (b.slots.filter fun s => s.key ≠ key).map EchoSlot.messageId

theorem mem_idsBeside (stored : s ∈ b.slots) (apart : s.key ≠ key) :
    s.messageId ∈ b.idsBeside key :=
  List.mem_map_of_mem (List.mem_filter.2 ⟨stored, decide_eq_true apart⟩)

theorem length_idsBeside_lt (known : key ∈ b.slots.map EchoSlot.key) :
    (b.idsBeside key).length < b.slots.length := by
  obtain ⟨s, stored, own⟩ := List.mem_map.1 known
  rw [idsBeside, List.length_map]
  exact List.length_filter_lt_length_iff_exists.2 ⟨s, stored, by simp [own]⟩

/-- The first `steps` ids after `own` are all among `ids`, unless they are `own` again. -/
def Passed (own : UInt8) (ids : List UInt8) (steps : Nat) : Prop :=
  ∀ n < steps, own + 1 + UInt8.ofNat n ∈ own :: ids

section Passed

variable {ids more : List UInt8} {steps skipped : Nat}

theorem Passed.mono (passed : Passed own ids steps) (subset : ids ⊆ more) :
    Passed own more steps := fun n lt => List.cons_subset_cons _ subset (passed n lt)

theorem Passed.succ (passed : Passed own ids steps)
    (next : own + 1 + UInt8.ofNat steps ∈ ids) : Passed own ids (steps + 1) := by
  intro n lt
  rcases Nat.lt_or_eq_of_le (Nat.le_of_lt_succ lt) with before | rfl
  · exact passed n before
  · exact List.mem_cons_of_mem _ next

theorem Passed.skip (passed : Passed own ids steps)
    (counter : b.nextId = own + 1 + UInt8.ofNat steps)
    (beside : ∀ s ∈ b.slots, s.key ≠ key → s.onAir → s.messageId ∈ own :: ids)
    (busy : ∀ n < skipped, b.isTaken key (b.nextId + UInt8.ofNat n)) :
    Passed own ids (steps + skipped) := by
  intro n lt
  by_cases old : n < steps
  · exact passed n old
  · obtain ⟨beyond, rfl⟩ := Nat.exists_eq_add_of_le (Nat.not_lt.1 old)
    obtain ⟨s, stored, held⟩ := List.any_eq_true.1 (busy beyond (Nat.lt_of_add_lt_add_left lt))
    simp only [Bool.and_eq_true, decide_eq_true_eq, beq_iff_eq] at held
    rw [UInt8.ofNat_add, ← UInt8.add_assoc, ← counter, ← held.2]
    exact beside s stored held.1.1 held.1.2

theorem Passed.length_le (passed : Passed own ids steps) (round : 255 ≤ steps) :
    255 ≤ ids.length := by
  have others : (List.range 255).map (fun n => own + 1 + UInt8.ofNat n) ⊆ ids := by
    intro id member
    obtain ⟨n, below, rfl⟩ := List.mem_map.1 member
    have below := List.mem_range.1 below
    refine List.mem_of_ne_of_mem (fun same => ?_) (passed n (Nat.lt_of_lt_of_le below round))
    have zero : own + UInt8.ofNat (n + 1) = own + UInt8.ofNat 0 :=
      (ofNat_succ_add own n).symm.trans (same.trans (UInt8.add_zero own).symm)
    exact absurd (ofNat_add_inj (by omega) (by decide) zero) (Nat.succ_ne_zero n)
  simpa using (List.subperm_of_subset (nodup_row (own + 1) (by decide)) others).length_le

end Passed

/-- How far the counter has come since a subject got its id `own`, after `drawn` publications of
others: what it passed is among `ids`, which grow by one with each publication. The first one makes
no difference, as its subject gives up the id that it had. -/
structure Since (key : κ) (own : UInt8) (drawn steps : Nat) (ids : List UInt8)
    (b : EchoBoard κ) : Prop where
  known : key ∈ b.slots.map EchoSlot.key
  holds : ∀ s ∈ b.slots, s.key = key → s.onAir → s.messageId = own
  counter : b.nextId = own + 1 + UInt8.ofNat steps
  passed : Passed own ids steps
  beside : ∀ s ∈ b.slots, s.key ≠ key → s.onAir → s.messageId ∈ ids
  few : ids.length + 1 ≤ b.capacity + (drawn - 1)
  first : drawn = 0 → steps = 0

section Since

variable {drawn steps : Nat} {ids more : List UInt8}

theorem since_publish_own (became : fresh.Became b) (few : fresh.capacity ≤ 255)
    (published : b.publish key build = .ok (next, requests)) :
    Since key (b.freshId key) 0 0 (next.idsBeside key) next := by
  have known := (mem_keys_publish published).2 (.inl rfl)
  obtain ⟨skipped, -, id, counter⟩ := skipped_of_publish (became.free few published) published
  refine ⟨known, fun s stored own on => ?_, ?_, fun n lt => absurd lt (Nat.not_lt_zero n),
    fun s stored apart _ => mem_idsBeside stored apart, ?_, fun _ => rfl⟩
  · rcases (mem_slots_publish became.apart.distinct published).1 stored with ⟨-, apart⟩ | rfl
    · exact absurd own apart
    · rfl
  · rw [counter, id, UInt8.ofNat_add, ← UInt8.add_assoc]
    exact (UInt8.add_zero _).symm
  · exact Nat.lt_of_lt_of_le (length_idsBeside_lt known) (became.publish few published).length_le

/-- The counter goes on over ids that stay on air and over the one that is drawn. -/
theorem Since.publish_among (since : Since key own drawn steps ids b) (became : fresh.Became b)
    (few : fresh.capacity ≤ 255) (apart : other ≠ key)
    (published : b.publish other build = .ok (next, requests)) (passed : Passed own more steps)
    (stays : ∀ s ∈ b.slots, s.key ≠ other → s.key ≠ key → s.onAir → s.messageId ∈ more)
    (new : b.freshId other ∈ more) (length : more.length + 1 ≤ next.capacity + drawn) :
    ∃ steps, Since key own (drawn + 1) steps more next := by
  have free := became.free few published
  have slots {s} := mem_slots_publish (s := s) became.apart.distinct published
  have stays' : ∀ s ∈ b.slots, s.key ≠ other → s.onAir → s.messageId ∈ own :: more := by
    intro s stored beside on
    by_cases mine : s.key = key
    · exact since.holds s stored mine on ▸ List.mem_cons_self
    · exact List.mem_cons_of_mem _ (stays s stored beside mine on)
  obtain ⟨skipped, busy, id, after⟩ := skipped_of_publish free published
  have reached : b.freshId other = own + 1 + UInt8.ofNat (steps + skipped) := by
    rw [id, since.counter, UInt8.ofNat_add, ← UInt8.add_assoc]
  refine ⟨steps + skipped + 1, (mem_keys_publish published).2 (.inr since.known),
    fun s stored mine on => ?_, ?_,
    (passed.skip since.counter stays' busy).succ (reached ▸ new),
    fun s stored beside on => ?_, length, fun none => by contradiction⟩
  · rcases slots.1 stored with ⟨old, -⟩ | rfl
    · exact since.holds s old mine on
    · exact absurd mine apart
  · rw [after, since.counter, Nat.add_assoc, UInt8.ofNat_add steps, ← UInt8.add_assoc]
  · rcases slots.1 stored with ⟨old, gone⟩ | rfl
    · exact stays s old gone beside on
    · exact new

theorem Since.publish (since : Since key own drawn steps ids b) (became : fresh.Became b)
    (few : fresh.capacity ≤ 255) (apart : other ≠ key)
    (published : b.publish other build = .ok (next, requests)) :
    ∃ steps ids, Since key own (drawn + 1) steps ids next := by
  have after := became.publish few published
  have capacity : next.capacity = b.capacity := after.capacity_eq.trans became.capacity_eq.symm
  have slots {s} := mem_slots_publish (s := s) became.apart.distinct published
  rcases Nat.eq_zero_or_pos drawn with none | some
  · -- Nothing is passed yet, so only those ids count that stay on air.
    obtain rfl := since.first none
    have known := (mem_keys_publish published).2 (.inr since.known)
    have beside := Nat.lt_of_lt_of_le (length_idsBeside_lt known) after.length_le
    obtain ⟨steps, since⟩ := since.publish_among became few apart published
      (fun n lt => absurd lt (Nat.not_lt_zero n))
      (fun s stored gone mine _ => mem_idsBeside (slots.2 (.inl ⟨stored, gone⟩)) mine)
      (mem_idsBeside (slots.2 (.inr rfl)) apart) (Nat.le_trans beside (Nat.le_add_right _ _))
    exact ⟨steps, _, since⟩
  · have length := since.few
    obtain ⟨steps, since⟩ := since.publish_among became few apart published
      (since.passed.mono (List.subset_cons_self _ _))
      (fun s stored _ mine on => List.mem_cons_of_mem _ (since.beside s stored mine on))
      List.mem_cons_self (by rw [List.length_cons, capacity]; omega)
    exact ⟨steps, _, since⟩

omit [DecidableEq κ] in
theorem Since.acknowledge (since : Since key own drawn steps ids b)
    (acknowledged : b.acknowledge a = some (next, requests)) :
    Since key own drawn steps ids next := by
  have known := keys_acknowledge acknowledged ▸ since.known
  have before {s} := mem_slots_acknowledge (s := s) acknowledged
  have same : next.nextId = b.nextId ∧ next.capacity = b.capacity := by
    obtain ⟨-, -, rfl, -⟩ := acknowledge_eq_some acknowledged
    exact ⟨rfl, rfl⟩
  refine ⟨known, fun s stored mine on => ?_, same.1 ▸ since.counter, since.passed,
    fun s stored apart on => ?_, same.2 ▸ since.few, since.first⟩
  · obtain ⟨t, old, key_t, id, on_t⟩ := before stored on
    exact id ▸ since.holds t old (key_t.trans mine) on_t
  · obtain ⟨t, old, key_t, id, on_t⟩ := before stored on
    exact id ▸ since.beside t old (key_t ▸ apart) on_t

omit [DecidableEq κ] in
theorem Since.refused (since : Since key own drawn steps ids b) :
    Since key own (drawn + 1) steps ids b :=
  { since with
    few := Nat.le_trans since.few (Nat.add_le_add_left (Nat.sub_le_sub_right (Nat.le_succ _) 1) _)
    first := fun none => by contradiction }

def subjects (calls : List (Call κ)) : List κ := calls.filterMap Call.subject?

theorem Since.after {calls : List (Call κ)} (since : Since key own drawn steps ids b)
    (became : fresh.Became b) (few : fresh.capacity ≤ 255) (quiet : key ∉ subjects calls) :
    ∃ steps ids, Since key own (drawn + (subjects calls).length) steps ids (b.after calls) := by
  induction calls generalizing b drawn steps ids with
  | nil => exact ⟨steps, ids, since⟩
  | cons call rest ih =>
    have became' := became.take few call
    cases call with
    | publish other build =>
      have apart : other ≠ key := fun same => quiet (same ▸ List.mem_cons_self)
      have later : key ∉ subjects rest := fun again => quiet (List.mem_cons_of_mem _ again)
      have step : ∃ steps ids,
          Since key own (drawn + 1) steps ids (b.take (.publish other build)) := by
        simp only [EchoBoard.take]
        cases answered : b.publish other build with
        | error fault => exact ⟨steps, ids, since.refused⟩
        | ok answer => exact since.publish became few apart answered
      obtain ⟨steps, ids, since⟩ := step
      have all := ih since became' later
      rwa [Nat.add_right_comm, Nat.add_assoc] at all
    | acknowledge a =>
      refine ih (?_ : Since key own drawn steps ids _) became' quiet
      simp only [EchoBoard.take]
      cases answered : b.acknowledge a with
      | none => exact since
      | some answer => exact since.acknowledge answered

theorem known_after {calls : List (Call κ)} (quiet : key ∉ subjects calls) :
    key ∈ (b.after calls).slots.map EchoSlot.key ↔ key ∈ b.slots.map EchoSlot.key := by
  induction calls generalizing b with
  | nil => exact Iff.rfl
  | cons call rest ih =>
    have first : call.subject? ≠ some key := fun same =>
      quiet (List.mem_filterMap.2 ⟨call, List.mem_cons_self, same⟩)
    have later : key ∉ subjects rest := fun again => by
      obtain ⟨call, member, same⟩ := List.mem_filterMap.1 again
      exact quiet (List.mem_filterMap.2 ⟨call, List.mem_cons_of_mem _ member, same⟩)
    exact (ih later).trans (mem_keys_take first)

theorem since_last_publication {earlier later : List (Call κ)} (start : fresh.Became fresh)
    (few : fresh.capacity ≤ 255) (quiet : key ∉ subjects later)
    (known : key ∈ (fresh.after (earlier ++ .publish key build :: later)).slots.map EchoSlot.key) :
    ∃ own steps ids, Since key own (subjects later).length steps ids
      (fresh.after (earlier ++ .publish key build :: later)) := by
  have before := start.after few earlier
  have split : fresh.after (earlier ++ .publish key build :: later) =
      ((fresh.after earlier).take (.publish key build)).after later := inTurn_append ..
  rw [split, known_after quiet] at known
  rw [split]
  simp only [take] at known ⊢
  cases answered : (fresh.after earlier).publish key build with
  | error fault =>
    rw [answered] at known
    exact absurd known (unknown_of_publish answered).1
  | ok answer =>
    have since := (since_publish_own before few answered).after (before.publish few answered) few
      quiet
    rw [Nat.zero_add] at since
    exact ⟨_, since⟩

theorem Since.freshId_ne (since : Since key own drawn steps ids b) (became : fresh.Became b)
    (few : fresh.capacity ≤ 255) (rounds : drawn + fresh.capacity ≤ 256)
    (published : b.publish key build = .ok (next, requests)) : b.freshId key ≠ own := by
  obtain ⟨skipped, busy, id, -⟩ := skipped_of_publish (became.free few published) published
  intro same
  have round : 255 ≤ steps + skipped := by
    rw [id, since.counter, UInt8.add_assoc, ← UInt8.ofNat_add, ofNat_succ_add] at same
    have bytes := congrArg UInt8.toNat same
    rw [UInt8.toNat_add, UInt8.toNat_ofNat'] at bytes
    have := own.toNat_lt
    omega
  have passed := since.passed.skip since.counter
    (fun s stored apart on => List.mem_cons_of_mem _ (since.beside s stored apart on)) busy
  have enough := passed.length_le round
  have most := since.few
  rw [became.capacity_eq] at most
  omega

end Since

theorem freshId_eq_iff (apart : b.Apart) (airs : s ∈ b.airing)
    (free : b.isTaken s.key (b.freshId s.key) = false)
    (published : b.publish s.key build = .ok (next, requests)) :
    b.freshId s.key = s.messageId ↔
      ∀ n < (s.messageId - b.nextId).toNat, b.isTaken s.key (b.nextId + UInt8.ofNat n) := by
  obtain ⟨stored, on⟩ := List.mem_filter.1 airs
  obtain ⟨skipped, busy, id, -⟩ := skipped_of_publish free published
  have ahead : b.nextId + UInt8.ofNat (s.messageId - b.nextId).toNat = s.messageId := by
    rw [UInt8.ofNat_toNat, UInt8.add_comm, UInt8.sub_add_cancel]
  have mine : b.isTaken s.key s.messageId = false := by
    refine List.any_eq_false.2 fun t stored' held => ?_
    simp only [Bool.and_eq_true, decide_eq_true_eq, beq_iff_eq] at held
    exact held.1.1 (apart.apart t stored' s stored held.1.2 on held.2)
  constructor
  · intro same n lt
    refine busy n (Nat.lt_of_lt_of_le lt ?_)
    rw [← same, id, UInt8.add_comm, UInt8.add_sub_cancel, UInt8.toNat_ofNat']
    exact Nat.mod_le _ _
  · intro before
    rcases Nat.lt_trichotomy skipped (s.messageId - b.nextId).toNat with short | rfl | long
    · have taken := before skipped short
      rw [← id, free] at taken
      contradiction
    · exact id.trans ahead
    · have taken := busy _ long
      rw [ahead, mine] at taken
      contradiction

theorem acknowledge_overwritten (became : fresh.Became b) (few : fresh.capacity ≤ 255)
    (airs : s ∈ b.airing) (published : b.publish s.key build = .ok (next, requests)) :
    (b.freshId s.key ≠ s.messageId → next.acknowledge ⟨b.tag, s.messageId⟩ = none) ∧
      (b.freshId s.key = s.messageId → ∃ last requests,
        next.acknowledge ⟨b.tag, s.messageId⟩ = some (last, requests) ∧
          ⟨s.key, b.freshId s.key, build (b.freshId s.key), false⟩ ∈ last.slots) := by
  obtain ⟨stored, on⟩ := List.mem_filter.1 airs
  have after := became.publish few published
  have tag : b.tag = next.tag := became.serves.tag_eq.trans after.serves.tag_eq.symm
  have slots {t} := mem_slots_publish (s := t) became.apart.distinct published
  constructor
  · intro other
    refine if_neg fun named => ?_
    obtain ⟨t, held, air⟩ := List.any_eq_true.1 named.2
    simp only [Bool.and_eq_true, beq_iff_eq] at air
    rcases slots.1 held with ⟨old, beside⟩ | rfl
    · exact beside (became.apart.apart t old s stored air.1 on air.2)
    · exact other air.2
  · intro same
    have new := slots.2 (.inr rfl)
    have named : next.slots.any (fun t => t.onAir && t.messageId == s.messageId) = true :=
      List.any_eq_true.2 ⟨_, new, by simp [same]⟩
    refine ⟨_, _, if_pos ⟨tag, named⟩, ?_⟩
    rw [retire_eq_map after.apart.distinct after.apart.apart new rfl same]
    exact List.mem_map.2 ⟨_, new, if_pos rfl⟩

/-- A page on air is always overwritten. Its subject keeps the id only if all ids from the counter
up to that one are on air for other subjects, so never before the others were published often
enough. With another id the acknowledgment of the page before names no page; with the same it
supersedes the new one. -/
theorem id_of_overwritten (fresh : EchoBoard κ) (calls : List (Call κ)) (build : UInt8 → Payload)
    {s : EchoSlot κ} (empty : fresh.slots = []) (few : fresh.capacity ≤ 255)
    (airs : s ∈ (fresh.after calls).airing) :
    let b := fresh.after calls
    ∃ next requests, b.publish s.key build = .ok (next, requests) ∧
      ⟨s.key, b.freshId s.key, build (b.freshId s.key), true⟩ ∈ next.slots ∧
      (b.freshId s.key = s.messageId ↔
        ∀ n < (s.messageId - b.nextId).toNat, b.isTaken s.key (b.nextId + UInt8.ofNat n)) ∧
      (∀ earlier before later, calls = earlier ++ .publish s.key before :: later →
        s.key ∉ subjects later → (subjects later).length + fresh.capacity ≤ 256 →
        b.freshId s.key ≠ s.messageId) ∧
      (b.freshId s.key ≠ s.messageId → next.acknowledge ⟨b.tag, s.messageId⟩ = none) ∧
      (b.freshId s.key = s.messageId → ∃ last requests,
        next.acknowledge ⟨b.tag, s.messageId⟩ = some (last, requests) ∧
          ⟨s.key, b.freshId s.key, build (b.freshId s.key), false⟩ ∈ last.slots) := by
  intro b
  have start := became_self empty
  have became := start.after few calls
  obtain ⟨stored, on⟩ := List.mem_filter.1 airs
  have known : s.key ∈ b.slots.map EchoSlot.key := List.mem_map_of_mem stored
  cases published : b.publish s.key build with
  | error fault => exact absurd known (unknown_of_publish published).1
  | ok answer =>
    obtain ⟨next, requests⟩ := answer
    have free := became.free few published
    refine ⟨next, requests, rfl, (mem_slots_publish became.apart.distinct published).2 (.inr rfl),
      freshId_eq_iff became.apart airs free published, ?_,
      acknowledge_overwritten became few airs published⟩
    rintro earlier before later rfl quiet rounds
    obtain ⟨own, steps, ids, since⟩ := since_last_publication start few quiet known
    rw [since.holds s stored rfl on]
    exact since.freshId_ne became few rounds published

def trio : EchoBoard NodeId :=
  { name := "signals", tag := .indicator, replicas := 1, capacity := 3 }

def signal (node : NodeId) (function : LedFunction) : Call NodeId :=
  .publish node (Report.indicator node function .red).page

/-- The first two stay on air while a third is published again and again. -/
def repeated (times : Nat) : List (Call NodeId) :=
  [signal 12 .solid, signal 10 .solid] ++ List.replicate times (signal 11 .blinking)

/-- The 253rd time is the last after which the second gets another id for sure. -/
theorem id_of_overwritten_repeated :
    let page := (Report.indicator 10 .solid .red).page
    let b := trio.after (repeated 253)
    ⟨10, 1, page 1, true⟩ ∈ b.airing ∧ b.freshId 10 = 255 ∧
      ∃ next requests, b.publish 10 page = .ok (next, requests) ∧
        ⟨10, 255, page 255, true⟩ ∈ next.slots ∧ next.acknowledge ⟨.indicator, 1⟩ = none := by
  intro page b
  have airs : ⟨10, 1, page 1, true⟩ ∈ b.airing := by decide +kernel
  have id : b.freshId 10 = 255 := by decide +kernel
  obtain ⟨next, requests, published, stored, -, other, late, -⟩ :=
    id_of_overwritten trio (repeated 253) page rfl (by decide) airs
  have later : subjects (List.replicate 253 (signal 11 .blinking)) = List.replicate 253 11 :=
    List.filterMap_replicate_of_some rfl
  have kept := other [signal 12 .solid] page (List.replicate 253 (signal 11 .blinking))
    (by simp only [repeated, List.cons_append, List.nil_append]; rfl)
    (by rw [later]; exact fun again => absurd (List.eq_of_mem_replicate again) (by decide))
    (by rw [later, List.length_replicate]; decide)
  have start : trio.Became trio := became_self rfl
  have tag : b.tag = .indicator := (start.after (by decide) (repeated 253)).serves.tag_eq
  have late := late kept
  rw [tag] at late
  have stored : ⟨10, b.freshId 10, page (b.freshId 10), true⟩ ∈ next.slots := stored
  rw [id] at stored
  exact ⟨airs, id, next, requests, published, stored, late⟩

/-- After the 254th the second gets the id that it holds, and the acknowledgment of the page before
takes the new one off the air. -/
theorem own_id_comes_back :
    let solid := (Report.indicator 10 .solid .red).page
    let off := (Report.indicator 10 .off .red).page
    let b := trio.after (repeated 254)
    let next := b.take (.publish 10 off)
    trio.slots = [] ∧ trio.capacity ≤ 255 ∧ b.find? 10 = some ⟨10, 1, solid 1, true⟩ ∧
      next.find? 10 = some ⟨10, 1, off 1, true⟩ ∧
      (next.take (.acknowledge ⟨.indicator, 1⟩)).find? 10 = some ⟨10, 1, off 1, false⟩ := by
  decide +kernel

end WildlifeWarning.EchoBoard
