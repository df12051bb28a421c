import Mathlib.Data.List.Chain
import Mathlib.Data.List.Nodup
import Mathlib.Data.List.Perm.Subperm
import WildlifeWarning.Proofs.Air.Airtime

/-! The headers of the pages on air, and the acknowledgments that name them.
A sender acknowledges exactly what one of its copies on air carries in its first two bytes, and what
it airs next carries another id: ids follow one another, or are taken from those not on air. -/

namespace WildlifeWarning

def PageCopy.isNamedBy (copy : PageCopy) (a : Acknowledgement) : Prop :=
  copy.payload.byte 0 = a.page.code ∧ copy.payload.byte 1 = a.messageId

def PageCopy.Tagged (copy : PageCopy) : Prop := copy.payload.byte 0 = copy.tag.code

theorem PageTag.eq_of_code {s t : PageTag} (h : s.code = t.code) : s = t := by
  cases s
  cases t
  exact congrArg PageTag.mk h

theorem PageCopy.tag_of_isNamedBy {copy : PageCopy} {a : Acknowledgement} (tagged : copy.Tagged)
    (named : copy.isNamedBy a) : copy.tag = a.page := PageTag.eq_of_code (tagged.symm.trans named.1)

theorem next_ne (id : UInt8) : id + 1 ≠ id := by
  intro same
  have bytes := congrArg UInt8.toNat same
  have below := id.toNat_lt
  rw [UInt8.toNat_add, UInt8.toNat_one] at bytes
  omega

theorem ofNat_add_inj {start : UInt8} {m n : Nat} (first : m < 256) (second : n < 256)
    (same : start + UInt8.ofNat m = start + UInt8.ofNat n) : m = n := by
  have bytes := congrArg UInt8.toNat ((UInt8.add_right_inj start).1 same)
  rwa [UInt8.toNat_ofNat', UInt8.toNat_ofNat', Nat.mod_eq_of_lt first,
    Nat.mod_eq_of_lt second] at bytes

theorem nodup_row (start : UInt8) {count : Nat} (few : count ≤ 256) :
    ((List.range count).map fun n => start + UInt8.ofNat n).Nodup := by
  refine List.Nodup.map_on (fun m first n second => ?_) List.nodup_range
  rw [List.mem_range] at first second
  exact ofNat_add_inj (Nat.lt_of_lt_of_le first few) (Nat.lt_of_lt_of_le second few)

namespace SampleQueue

/-- The ids of the samples in their order, and the next one. -/
def ids (q : SampleQueue) : List UInt8 := q.samples.map Sample.messageId ++ [q.nextId]

structure Headed (q : SampleQueue) : Prop where
  headers : ∀ s ∈ q.samples, s.copy.Tagged ∧ s.payload.byte 1 = s.messageId
  successive : q.ids.IsChain fun a b => b = a + 1

variable {q next : SampleQueue} {a : Acknowledgement} {requests : List Request}

theorem push_cases (q : SampleQueue) (report : Report) :
    ∃ kept, (kept = q.samples ∨ kept = q.samples.tail) ∧
      (q.push report).1 = { q with
        samples := kept ++ [⟨report.tag, q.nextId, report.page q.nextId⟩]
        nextId := q.nextId + 1 } := by
  refine ⟨_, ?_, push_eq q report⟩
  split
  · exact .inr rfl
  · exact .inl rfl

theorem headed_of_empty (empty : q.samples = []) : q.Headed :=
  ⟨by simp [empty], by simp [ids, empty]⟩

theorem headed_push (headed : q.Headed) (report : Report) : (q.push report).1.Headed := by
  obtain ⟨kept, from_, pushed⟩ := push_cases q report
  have subset : kept ⊆ q.samples := by
    rcases from_ with rfl | rfl
    · exact List.Subset.refl _
    · exact List.tail_sublist _ |>.subset
  have chain : (kept.map Sample.messageId ++ [q.nextId]).IsChain fun a b => b = a + 1 := by
    rcases from_ with rfl | rfl
    · exact headed.successive
    · cases samples : q.samples with
      | nil => exact .singleton _
      | cons front rest =>
        have := headed.successive
        rw [ids, samples] at this
        exact this.tail
  rw [pushed]
  refine ⟨fun s member => ?_, ?_⟩
  · rcases List.mem_append.1 member with old | new
    · exact headed.headers s (subset old)
    · obtain rfl := List.mem_singleton.1 new
      exact ⟨rfl, rfl⟩
  · have last : [q.nextId, q.nextId + 1].IsChain fun a b => b = a + 1 := by simp
    simpa [ids] using chain.append_overlap last (List.cons_ne_nil _ [])

theorem headed_acknowledge (headed : q.Headed)
    (acknowledged : q.acknowledge a = some (next, requests)) : next.Headed := by
  obtain ⟨front, rest, samples, -, -, rfl, -⟩ := acknowledge_eq_some acknowledged
  obtain ⟨headers, successive⟩ := headed
  rw [ids, samples] at successive
  exact ⟨fun s member => headers s (samples ▸ List.mem_cons_of_mem _ member), successive.tail⟩

theorem header_of_mem_due (headed : q.Headed) {copy : PageCopy} (member : copy ∈ q.due) :
    ∃ front rest, q.samples = front :: rest ∧ copy.tag = front.tag ∧ copy.Tagged ∧
      copy.payload.byte 1 = front.messageId := by
  cases samples : q.samples with
  | nil => simp [due_of_empty samples] at member
  | cons front rest =>
    rw [due_of_front samples] at member
    obtain rfl := List.eq_of_mem_replicate member
    exact ⟨front, rest, rfl, rfl, headed.headers front (samples ▸ List.mem_cons_self)⟩

theorem isSome_acknowledge_iff (headed : q.Headed) :
    (q.acknowledge a).isSome ↔ ∃ copy ∈ q.due, copy.isNamedBy a := by
  constructor
  · intro taken
    obtain ⟨⟨next, requests⟩, acknowledged⟩ := Option.isSome_iff_exists.1 taken
    obtain ⟨front, rest, samples, page, id, -⟩ := acknowledge_eq_some acknowledged
    obtain ⟨tagged, header⟩ := headed.headers front (samples ▸ List.mem_cons_self)
    refine ⟨front.copy, ?_, tagged.trans (congrArg PageTag.code page), header.trans id⟩
    rw [due_of_front samples]
    exact List.mem_cons_self
  · rintro ⟨copy, member, named⟩
    obtain ⟨front, rest, samples, tag, tagged, id⟩ := header_of_mem_due headed member
    have page := tag.symm.trans (copy.tag_of_isNamedBy tagged named)
    simp [acknowledge, samples, page, id.symm.trans named.2]

theorem not_named_of_acknowledge (headed : q.Headed)
    (acknowledged : q.acknowledge a = some (next, requests)) :
    ∀ copy ∈ next.due, ¬copy.isNamedBy a := by
  intro copy member named
  have headed' := headed_acknowledge headed acknowledged
  obtain ⟨front, rest, samples, -, id, rfl, -⟩ := acknowledge_eq_some acknowledged
  obtain ⟨second, others, rest_eq, -, -, header⟩ := header_of_mem_due headed' member
  obtain rfl : rest = second :: others := rest_eq
  have successive := headed.successive
  rw [ids, samples] at successive
  have follows : second.messageId = front.messageId + 1 := successive.rel
  exact next_ne a.messageId (by rw [← id, ← follows, ← header, named.2, id])

theorem tag_of_mem_requests (sound : q.Sound)
    (acknowledged : q.acknowledge a = some (next, requests)) :
    ∀ request ∈ requests, request.tag ∈ tags := by
  obtain ⟨front, rest, samples, -, -, rfl, rfl⟩ := acknowledge_eq_some acknowledged
  intro request member
  rcases List.mem_cons.1 member with rfl | aired
  · exact sound front (samples ▸ List.mem_cons_self)
  · rw [airFront_eq, List.map_map] at aired
    obtain ⟨s, among, rfl⟩ := List.mem_map.1 aired
    have later : s ∈ rest := List.mem_of_mem_head? (Option.mem_toList.1 among)
    exact sound s (samples ▸ List.mem_cons_of_mem _ later)

end SampleQueue

namespace EchoBoard

variable {κ : Type}

/-- Slots are of different subjects, and those on air have different ids. -/
structure Apart (b : EchoBoard κ) : Prop where
  distinct : (b.slots.map EchoSlot.key).Nodup
  apart : ∀ s ∈ b.slots, ∀ t ∈ b.slots, s.onAir → t.onAir → s.messageId = t.messageId →
    s.key = t.key

/-- Beyond `Apart`, every page carries its slot's id. -/
structure Headed (b : EchoBoard κ) : Prop extends Apart b where
  headers : ∀ s ∈ b.slots, s.payload.byte 0 = b.tag.code ∧ s.payload.byte 1 = s.messageId

variable {b next : EchoBoard κ} {a : Acknowledgement} {requests : List Request}

theorem headed_of_empty (empty : b.slots = []) : b.Headed :=
  ⟨⟨by simp [empty], by simp [empty]⟩, by simp [empty]⟩

theorem mem_retire {id : UInt8} {slots : List (EchoSlot κ)} {t : EchoSlot κ}
    (member : t ∈ retire id slots) : ∃ s ∈ slots, s.key = t.key ∧ s.messageId = t.messageId ∧
      s.payload = t.payload ∧ (t.onAir → s.onAir) := by
  fun_induction retire id slots with
  | case1 => contradiction
  | case2 s rest found =>
    rcases List.mem_cons.1 member with rfl | later
    · exact ⟨s, List.mem_cons_self, rfl, rfl, rfl, fun on => absurd on (by simp)⟩
    · exact ⟨t, List.mem_cons_of_mem _ later, rfl, rfl, rfl, fun on => on⟩
  | case3 s rest other ih =>
    rcases List.mem_cons.1 member with rfl | later
    · exact ⟨t, List.mem_cons_self, rfl, rfl, rfl, fun on => on⟩
    · obtain ⟨s, member, same⟩ := ih later
      exact ⟨s, List.mem_cons_of_mem _ member, same⟩

theorem messageId_ne_of_mem_retire {id : UInt8} {slots : List (EchoSlot κ)}
    (distinct : (slots.map EchoSlot.key).Nodup)
    (apart : ∀ s ∈ slots, ∀ t ∈ slots, s.onAir → t.onAir → s.messageId = t.messageId →
      s.key = t.key) {t : EchoSlot κ} (member : t ∈ retire id slots) (on : t.onAir) :
    t.messageId ≠ id := by
  fun_induction retire id slots with
  | case1 => contradiction
  | case2 s rest found =>
    simp only [Bool.and_eq_true, beq_iff_eq] at found
    rcases List.mem_cons.1 member with rfl | later
    · contradiction
    · intro same
      have key := apart s List.mem_cons_self t (List.mem_cons_of_mem _ later) found.1 on
        (found.2.trans same.symm)
      exact (List.nodup_cons.1 distinct).1 (key ▸ List.mem_map_of_mem later)
  | case3 s rest other ih =>
    rcases List.mem_cons.1 member with rfl | later
    · rintro rfl
      simp [on] at other
    · exact ih (List.nodup_cons.1 distinct).2
        (fun s first t second => apart s (List.mem_cons_of_mem _ first) t
          (List.mem_cons_of_mem _ second)) later

theorem apart_acknowledge (apart : b.Apart)
    (acknowledged : b.acknowledge a = some (next, requests)) : next.Apart := by
  obtain ⟨-, -, rfl, -⟩ := acknowledge_eq_some acknowledged
  refine ⟨by rw [map_key_retire]; exact apart.distinct, fun s first t second => ?_⟩
  obtain ⟨s', first, key_s, id_s, -, on_s⟩ := mem_retire first
  obtain ⟨t', second, key_t, id_t, -, on_t⟩ := mem_retire second
  intro on off same
  rw [← key_s, ← key_t]
  exact apart.apart s' first t' second (on_s on) (on_t off) (by rw [id_s, id_t, same])

theorem headed_acknowledge (headed : b.Headed)
    (acknowledged : b.acknowledge a = some (next, requests)) : next.Headed := by
  have apart := apart_acknowledge headed.toApart acknowledged
  obtain ⟨-, -, rfl, -⟩ := acknowledge_eq_some acknowledged
  refine ⟨apart, fun t member => ?_⟩
  obtain ⟨s, among, -, id, payload, -⟩ := mem_retire member
  rw [← payload, ← id]
  exact headed.headers s among

theorem header_of_mem_due (headed : b.Headed) {copy : PageCopy} (member : copy ∈ b.due) :
    ∃ s ∈ b.slots, s.onAir ∧ copy.Tagged ∧ copy.payload.byte 1 = s.messageId := by
  obtain ⟨page, among, same⟩ := List.mem_flatMap.1 member
  obtain ⟨s, airing, rfl⟩ := List.mem_map.1 among
  obtain rfl := List.eq_of_mem_replicate same
  obtain ⟨stored, on⟩ := List.mem_filter.1 airing
  exact ⟨s, stored, on, headed.headers s stored⟩

theorem isSome_acknowledge_iff (headed : b.Headed) (replicas : 0 < b.replicas) :
    (b.acknowledge a).isSome ↔ ∃ copy ∈ b.due, copy.isNamedBy a := by
  constructor
  · intro taken
    obtain ⟨⟨next, requests⟩, acknowledged⟩ := Option.isSome_iff_exists.1 taken
    obtain ⟨page, ⟨s, stored, on, id⟩, -⟩ := acknowledge_eq_some acknowledged
    obtain ⟨tagged, header⟩ := headed.headers s stored
    refine ⟨⟨b.tag, s.payload⟩, ?_, tagged.trans (congrArg PageTag.code page.symm), header.trans id⟩
    refine List.mem_flatMap.2 ⟨⟨b.tag, s.payload⟩, List.mem_map.2 ⟨s, ?_, rfl⟩, ?_⟩
    · exact List.mem_filter.2 ⟨stored, on⟩
    · exact List.mem_replicate.2 ⟨Nat.pos_iff_ne_zero.1 replicas, rfl⟩
  · rintro ⟨copy, member, named⟩
    obtain ⟨s, stored, on, tagged, id⟩ := header_of_mem_due headed member
    have page := (tag_of_mem_due member).symm.trans (copy.tag_of_isNamedBy tagged named)
    have found : b.slots.any (fun s => s.onAir && s.messageId == a.messageId) = true :=
      List.any_eq_true.2 ⟨s, stored, by simp [on, id.symm.trans named.2]⟩
    simp [acknowledge, page, found]

theorem not_named_of_acknowledge (headed : b.Headed)
    (acknowledged : b.acknowledge a = some (next, requests)) :
    ∀ copy ∈ next.due, ¬copy.isNamedBy a := by
  intro copy member named
  have headed' := headed_acknowledge headed acknowledged
  obtain ⟨-, -, rfl, -⟩ := acknowledge_eq_some acknowledged
  obtain ⟨s, stored, on, -, header⟩ := header_of_mem_due headed' member
  exact messageId_ne_of_mem_retire headed.distinct headed.apart stored on
    (header.symm.trans named.2)

theorem tag_of_mem_requests (acknowledged : b.acknowledge a = some (next, requests)) :
    ∀ request ∈ requests, request.tag = b.tag := by
  obtain ⟨-, -, rfl, rfl⟩ := acknowledge_eq_some acknowledged
  intro request member
  rcases List.mem_cons.1 member with rfl | aired
  · rfl
  · obtain ⟨s, -, rfl⟩ := List.mem_map.1 aired
    rfl

variable [DecidableEq κ]

theorem isTaken_freshId (b : EchoBoard κ) (key : κ)
    (few : (b.slots.filter fun s => s.key ≠ key).length < 256) :
    b.isTaken key (b.freshId key) = false := by
  refine not_taken_freeId ?_
  by_contra none_free
  simp only [not_exists, not_and, Bool.not_eq_false] at none_free
  have taken : (List.range 256).map (fun n => b.nextId + UInt8.ofNat n) ⊆
      (b.slots.filter fun s => s.key ≠ key).map EchoSlot.messageId := by
    intro id member
    obtain ⟨n, below, rfl⟩ := List.mem_map.1 member
    obtain ⟨s, stored, busy⟩ := List.any_eq_true.1 (none_free n (List.mem_range.1 below))
    simp only [Bool.and_eq_true, beq_iff_eq] at busy
    exact busy.2 ▸ List.mem_map_of_mem (List.mem_filter.2 ⟨stored, busy.1.1⟩)
  have enough := (List.subperm_of_subset (nodup_row b.nextId (Nat.le_refl 256)) taken).length_le
  simp only [List.length_map, List.length_range] at enough
  omega

theorem apart_publish (apart : b.Apart) {key : κ} {build : UInt8 → Payload}
    (free : b.isTaken key (b.freshId key) = false)
    (published : b.publish key build = .ok (next, requests)) : next.Apart := by
  obtain ⟨nextId, rfl, -, -⟩ := publish_cases published
  have distinct := Keyed.nodup_store EchoSlot.key
    ⟨key, b.freshId key, build (b.freshId key), true⟩ apart.distinct
  -- What the store leaves of the other subjects' slots does not carry the fresh id.
  have other : ∀ s ∈ b.slots, s.key ≠ key → s.onAir → s.messageId ≠ b.freshId key := by
    intro s stored apart on same
    have busy : b.isTaken key (b.freshId key) = true :=
      List.any_eq_true.2 ⟨s, stored, by simp [apart, on, same]⟩
    simp [busy] at free
  refine ⟨distinct, fun s first t second on off same => ?_⟩
  rcases Keyed.mem_of_mem_store EchoSlot.key first with rfl | old_s <;>
    rcases Keyed.mem_of_mem_store EchoSlot.key second with rfl | old_t
  · rfl
  · by_contra apart
    exact other t old_t (Ne.symm apart) off same.symm
  · by_contra apart
    exact other s old_s apart on same
  · exact apart.apart s old_s t old_t on off same

theorem headed_publish (headed : b.Headed) (few : b.slots.length < 256) {key : κ}
    {report : Report} (own : report.tag = b.tag)
    (published : b.publish key report.page = .ok (next, requests)) : next.Headed := by
  have apart := apart_publish headed.toApart
    (isTaken_freshId b key (Nat.lt_of_le_of_lt (List.length_filter_le _ _) few)) published
  obtain ⟨nextId, rfl, -, -⟩ := publish_cases published
  refine ⟨apart, fun s member => ?_⟩
  rcases Keyed.mem_of_mem_store EchoSlot.key member with rfl | old
  · exact ⟨(Report.page_tag report _).trans (congrArg PageTag.code own), rfl⟩
  · exact headed.headers s old

end EchoBoard

namespace HealthReports

/-- The report on air has the id before the next one. -/
def Headed (h : HealthReports) : Prop :=
  ∀ aired, h.onAir = some aired → aired.messageId + 1 = h.nextId

variable {h next : HealthReports} {a : Acknowledgement} {requests : List Request}

theorem headed_of_airFrom {start : Nat} (anew : h.airFrom start = (next, requests)) :
    next.Headed := by
  intro aired on
  obtain ⟨-, -, -, id, nextId⟩ := onAir_of_airFrom anew on
  rw [id, nextId]

theorem headed_report {r : HealthReport} (headed : h.Headed)
    (reported : h.report r = .ok (next, requests)) : next.Headed := by
  obtain ⟨slot, -, ⟨anew, -⟩ | ⟨aired, -, ⟨-, rfl, -⟩ | ⟨-, -, rfl, -⟩⟩⟩ := report_cases reported
  · exact headed_of_airFrom anew
  · exact headed
  · intro again on
    obtain rfl := Option.some.inj on
    rfl

theorem headed_acknowledge (acknowledged : h.acknowledge a = some (next, requests)) :
    next.Headed := by
  obtain ⟨aired, -, -, -, anew⟩ := acknowledge_eq_some acknowledged
  exact headed_of_airFrom anew

theorem header_of_mem_due (sound : h.Sound) {copy : PageCopy} (member : copy ∈ h.due) :
    ∃ aired, h.onAir = some aired ∧ copy.tag = aired.tag ∧ copy.Tagged ∧
      copy.payload.byte 1 = aired.messageId := by
  obtain ⟨aired, report, on, pending, rfl⟩ := mem_due_iff.1 member
  obtain ⟨r, stored, tag⟩ := sound.occupied aired on
  obtain rfl := Option.some.inj (pending.symm.trans stored)
  exact ⟨aired, on, tag, rfl, rfl⟩

theorem isSome_acknowledge_iff (sound : h.Sound) :
    (h.acknowledge a).isSome ↔ ∃ copy ∈ h.due, copy.isNamedBy a := by
  constructor
  · intro taken
    obtain ⟨⟨next, requests⟩, acknowledged⟩ := Option.isSome_iff_exists.1 taken
    obtain ⟨aired, on, page, id, -⟩ := acknowledge_eq_some acknowledged
    obtain ⟨r, pending, tag⟩ := sound.occupied aired on
    refine ⟨⟨r.tag, r.page aired.messageId⟩, ?_, ?_, id⟩
    · rw [due_of_onAir on pending]
      exact List.mem_singleton_self _
    · exact (congrArg PageTag.code (tag.trans page) : r.tag.code = _)
  · rintro ⟨copy, member, named⟩
    obtain ⟨aired, on, tag, tagged, id⟩ := header_of_mem_due sound member
    have page := tag.symm.trans (copy.tag_of_isNamedBy tagged named)
    simp [acknowledge, on, page, id.symm.trans named.2]

theorem not_named_of_acknowledge (headed : h.Headed)
    (acknowledged : h.acknowledge a = some (next, requests)) (sound : next.Sound) :
    ∀ copy ∈ next.due, ¬copy.isNamedBy a := by
  intro copy member named
  obtain ⟨aired, on, -, id, anew⟩ := acknowledge_eq_some acknowledged
  obtain ⟨again, on', -, -, header⟩ := header_of_mem_due sound member
  obtain ⟨-, -, -, nextId, -⟩ := onAir_of_airFrom anew on'
  exact next_ne a.messageId (by rw [← id, headed aired on, ← nextId, ← header, named.2, id])

theorem tag_of_mem_requests (sound : h.Sound) (after : next.Sound)
    (acknowledged : h.acknowledge a = some (next, requests)) :
    ∀ request ∈ requests, request.tag ∈ tags := by
  obtain ⟨aired, on, -, -, anew⟩ := acknowledge_eq_some acknowledged
  have asked := requests_of_airFrom anew
  rw [asked, on]
  intro request member
  rcases List.mem_cons.1 member with rfl | later
  · obtain ⟨r, pending, tag⟩ := sound.occupied aired on
    change aired.tag ∈ tags
    exact tag ▸ sound.tags _ r pending
  · obtain ⟨copy, due, rfl⟩ := List.mem_map.1 later
    exact tag_mem_of_mem_due after due

end HealthReports

end WildlifeWarning
