import WildlifeWarning.Air.HealthReports
import WildlifeWarning.Proofs.Air.Copies

/-! The copy that the health reports have on air: the page of the aired slot with its present
content, and none only if nothing is pending. -/

namespace WildlifeWarning.HealthReports

def tags : List PageTag := [.hyperactive, .inactive]

/-- The present content of the aired slot under the id that it was last aired with. -/
def aired? (h : HealthReports) : Option PageCopy := do
  let aired ← h.onAir
  let report ← h.slot? aired.slot
  some ⟨report.tag, report.page aired.messageId⟩

def due (h : HealthReports) : List PageCopy := h.aired?.toList

structure Sound (h : HealthReports) : Prop where
  tags : ∀ i r, h.slot? i = some r → r.tag ∈ HealthReports.tags
  occupied : ∀ aired, h.onAir = some aired → ∃ r, h.slot? aired.slot = some r ∧ r.tag = aired.tag
  silent : h.onAir = none → ∀ i, h.slot? i = none

/-- The aired slot holds a report, and its page is the one on air; nothing is on air only if nothing
is pending. -/
structure Steady (h : HealthReports) : Prop where
  occupied : ∀ aired, h.onAir = some aired → ∃ r, h.slot? aired.slot = some r ∧ r.tag = aired.tag
  silent : h.onAir = none → ∀ i, h.slot? i = none

theorem Sound.steady {h : HealthReports} (sound : h.Sound) : h.Steady :=
  ⟨sound.occupied, sound.silent⟩

theorem pending_eq_nil_iff {h : HealthReports} : h.pending = [] ↔ ∀ i, h.slot? i = none := by
  simp only [pending, List.filterMap_eq_nil_iff, id, slot?]
  constructor
  · intro free i
    cases slot : h.slots[i]? with
    | none => rfl
    | some content => exact free content (List.mem_of_getElem? slot)
  · intro free content member
    obtain ⟨i, slot⟩ := List.mem_iff_getElem?.1 member
    simpa [slot] using free i

theorem slot?_empty (capacity i : Nat) : (empty capacity).slot? i = none :=
  pending_eq_nil_iff.1
    (List.filterMap_eq_nil_iff.2 fun _ member => List.eq_of_mem_replicate member) i

theorem lt_capacity_of_slot? {h : HealthReports} {i : Nat} {r : HealthReport}
    (pending : h.slot? i = some r) : i < h.capacity := by
  by_contra beyond
  have : h.slots[i]? = none := List.getElem?_eq_none (Nat.not_lt.1 beyond)
  simp [slot?, this] at pending

theorem slot?_set (h : HealthReports) {i : Nat} (inside : i < h.capacity)
    (content : Option HealthReport) (j : Nat) :
    { h with slots := h.slots.set i content }.slot? j = if j = i then content else h.slot? j := by
  unfold slot?
  by_cases same : j = i
  · subst same
    rw [if_pos rfl, List.getElem?_set_self inside]
    rfl
  · rw [if_neg same, List.getElem?_set_ne (Ne.symm same)]

theorem slotFor?_lt {h : HealthReports} {key : SensorKey} {i : Nat}
    (found : h.slotFor? key = some i) : i < h.capacity := by
  unfold slotFor? at found
  cases known : h.slots.findIdx? (fun s => s.any (·.key == key)) with
  | none =>
    rw [known] at found
    exact (List.findIdx?_eq_some_iff_getElem.1 found).1
  | some k =>
    rw [known] at found
    have : k = i := Option.some.inj found
    exact this ▸ (List.findIdx?_eq_some_iff_getElem.1 known).1

theorem exists_step {n i : Nat} (start : Nat) (h : i < n) : ∃ step < n, (start + step) % n = i := by
  have split := Nat.div_add_mod start n
  have below := Nat.mod_lt start (Nat.lt_of_le_of_lt (Nat.zero_le i) h)
  by_cases before : start % n ≤ i
  · refine ⟨i - start % n, by omega, ?_⟩
    rw [show start + (i - start % n) = n * (start / n) + i by omega, Nat.mul_add_mod,
      Nat.mod_eq_of_lt h]
  · refine ⟨i + n - start % n, by omega, ?_⟩
    rw [show start + (i + n - start % n) = n * (start / n) + (n + i) by omega, Nat.mul_add_mod,
      Nat.add_mod_left, Nat.mod_eq_of_lt h]

theorem nextPending?_cases {h : HealthReports} {start i : Nat} {r : HealthReport}
    (next : h.nextPending? start = some (i, r)) :
    h.slot? i = some r ∧ ∃ step < h.capacity, (start + step) % h.capacity = i ∧
      ∀ passed < step, h.slot? ((start + passed) % h.capacity) = none := by
  obtain ⟨before, step, after, split, found, free⟩ := List.findSome?_eq_some_iff.1 next
  obtain ⟨report, pending, same⟩ := Option.map_eq_some_iff.1 found
  obtain ⟨rfl, rfl⟩ := Prod.mk.inj same
  rw [List.range_eq_range'] at split
  obtain ⟨k, -, rfl, rest⟩ := List.range'_eq_append_iff.1 split
  obtain ⟨here, inside, -⟩ := List.range'_eq_cons_iff.1 rest.symm
  obtain rfl : k = step := by omega
  refine ⟨pending, k, by omega, rfl, fun passed earlier => ?_⟩
  exact Option.map_eq_none_iff.1 (free passed (List.mem_range'_1.2 ⟨Nat.zero_le _, by omega⟩))

theorem slot?_of_nextPending? {h : HealthReports} {start i : Nat} {r : HealthReport}
    (next : h.nextPending? start = some (i, r)) : h.slot? i = some r := (nextPending?_cases next).1

theorem slot?_of_nextPending?_none {h : HealthReports} {start : Nat}
    (next : h.nextPending? start = none) (i : Nat) : h.slot? i = none := by
  by_contra pending
  obtain ⟨r, pending⟩ := Option.ne_none_iff_exists'.1 pending
  obtain ⟨step, inside, same⟩ := exists_step start (lt_capacity_of_slot? pending)
  have passed := List.findSome?_eq_none_iff.1 next step (List.mem_range.2 inside)
  simp only [same, pending] at passed
  contradiction

variable {h next : HealthReports} {r : HealthReport} {a : Acknowledgement} {aired : AiredReport}
  {requests : List Request} {start : Nat}

theorem slot?_airFrom (h : HealthReports) (start i : Nat) :
    (h.airFrom start).1.slot? i = h.slot? i := by
  unfold airFrom
  simp only
  split <;> rfl

theorem slot?_of_airFrom (anew : h.airFrom start = (next, requests)) :
    next.capacity = h.capacity ∧ ∀ i, next.slot? i = h.slot? i := by
  obtain rfl : (h.airFrom start).1 = next := congrArg Prod.fst anew
  exact ⟨capacity_airFrom h start, slot?_airFrom h start⟩

theorem onAir_of_airFrom (anew : h.airFrom start = (next, requests))
    (on : next.onAir = some aired) :
    ∃ r, h.nextPending? start = some (aired.slot, r) ∧ aired.tag = r.tag ∧
      aired.messageId = h.nextId ∧ next.nextId = h.nextId + 1 := by
  unfold airFrom at anew
  simp only at anew
  split at anew
  · obtain ⟨rfl, -⟩ := Prod.mk.inj anew
    contradiction
  · next slot report found =>
    obtain ⟨rfl, -⟩ := Prod.mk.inj anew
    obtain rfl := Option.some.inj on
    exact ⟨report, found, rfl, rfl, rfl⟩

theorem slot?_of_airFrom_silent (anew : h.airFrom start = (next, requests))
    (off : next.onAir = none) (i : Nat) : h.slot? i = none := by
  unfold airFrom at anew
  simp only at anew
  split at anew
  · next dry => exact slot?_of_nextPending?_none dry i
  · obtain ⟨rfl, -⟩ := Prod.mk.inj anew
    contradiction

theorem steady_of_airFrom (anew : h.airFrom start = (next, requests)) : next.Steady := by
  obtain ⟨-, slots⟩ := slot?_of_airFrom anew
  refine ⟨fun aired on => ?_, fun off i => ?_⟩
  · obtain ⟨r, found, tag, -⟩ := onAir_of_airFrom anew on
    exact ⟨r, (slots _).trans (slot?_of_nextPending? found), tag.symm⟩
  · exact (slots i).trans (slot?_of_airFrom_silent anew off i)

theorem slotFor?_cases {key : SensorKey} {i : Nat} (found : h.slotFor? key = some i) :
    (∃ r, h.slot? i = some r ∧ r.key = key) ∨
      (h.slot? i = none ∧ ∀ j r, h.slot? j = some r → r.key ≠ key) := by
  unfold slotFor? at found
  cases known : h.slots.findIdx? (fun s => s.any (·.key == key)) with
  | some k =>
    rw [known] at found
    obtain rfl : k = i := Option.some.inj found
    obtain ⟨inside, own, -⟩ := List.findIdx?_eq_some_iff_getElem.1 known
    obtain ⟨r, stored, same⟩ := (Option.any_eq_true _ _).1 own
    exact .inl ⟨r, by rw [slot?, List.getElem?_eq_getElem inside, stored]; rfl, by simpa using same⟩
  | none =>
    rw [known] at found
    obtain ⟨inside, free, -⟩ := List.findIdx?_eq_some_iff_getElem.1 found
    refine .inr ⟨?_, fun j r pending same => ?_⟩
    · rw [slot?, List.getElem?_eq_getElem inside, Option.isNone_iff_eq_none.1 free]
      rfl
    · have other := List.findIdx?_eq_none_iff.1 known (some r)
        (List.mem_of_getElem? (Option.join_eq_some_iff.1 pending))
      simp [same] at other

theorem key_of_slotFor? {key : SensorKey} {i : Nat} (found : h.slotFor? key = some i)
    (pending : h.slot? i = some r) : r.key = key := by
  rcases slotFor?_cases found with ⟨old, stored, same⟩ | ⟨free, -⟩
  · rwa [Option.some.inj (pending.symm.trans stored)]
  · exact absurd (pending.symm.trans free) (by simp)

theorem slotFor?_eq_none {key : SensorKey} (full : h.slotFor? key = none) :
    h.slots.findIdx? (fun s => s.any (·.key == key)) = none ∧
      h.slots.findIdx? Option.isNone = none := by
  unfold slotFor? at full
  cases known : h.slots.findIdx? (fun s => s.any (·.key == key)) with
  | some k =>
    rw [known] at full
    contradiction
  | none =>
    rw [known] at full
    exact ⟨rfl, full⟩

theorem fault_of_report {fault : Fault} (refused : h.report r = .error fault) :
    fault = .capacityExhausted "sensor error reports" h.capacity := by
  unfold report at refused
  split at refused
  · exact (Except.error.inj refused).symm
  · contradiction

/-- A report goes into its slot. Either the next one is aired from there, or the report on air lies
elsewhere, or it is this one and is overwritten. -/
theorem report_cases (reported : h.report r = .ok (next, requests)) :
    ∃ slot, h.slotFor? r.key = some slot ∧
      (({ h with slots := h.slots.set slot (some r) }.airFrom slot = (next, requests) ∧
          ∀ aired, h.onAir = some aired → aired.slot = slot) ∨
        ∃ aired, h.onAir = some aired ∧
          ((aired.slot ≠ slot ∧ next = { h with slots := h.slots.set slot (some r) } ∧
              requests = []) ∨
            (aired.slot = slot ∧ aired.tag = r.tag ∧
              next = { h with
                slots := h.slots.set slot (some r)
                onAir := some { aired with messageId := h.nextId }
                nextId := h.nextId + 1 } ∧
              requests = [.replace r.tag (r.page h.nextId)]))) := by
  unfold report at reported
  split at reported
  · contradiction
  · next slot found =>
    refine ⟨slot, found, ?_⟩
    split at reported
    · next off => exact .inl ⟨Except.ok.inj reported, fun aired on => by simp [off] at on⟩
    · next aired on =>
      split at reported
      · next elsewhere =>
        obtain ⟨rfl, rfl⟩ := Prod.mk.inj (Except.ok.inj reported)
        exact .inr ⟨aired, on, .inl ⟨elsewhere, rfl, rfl⟩⟩
      · next here =>
        have here := Decidable.of_not_not here
        split at reported
        · next same =>
          obtain ⟨rfl, rfl⟩ := Prod.mk.inj (Except.ok.inj reported)
          exact .inr ⟨aired, on, .inr ⟨here, same, rfl, rfl⟩⟩
        · refine .inl ⟨Except.ok.inj reported, fun again on' => ?_⟩
          rwa [← Option.some.inj (on.symm.trans on')]

theorem acknowledge_eq_some
    (acknowledged : h.acknowledge a = some (next, requests)) :
    ∃ aired, h.onAir = some aired ∧ aired.tag = a.page ∧ aired.messageId = a.messageId ∧
      { h with slots := h.slots.set aired.slot none }.airFrom (aired.slot + 1) =
        (next, requests) := by
  unfold acknowledge at acknowledged
  split at acknowledged
  · contradiction
  · next aired on =>
    split at acknowledged
    · next named => exact ⟨aired, on, named.1, named.2, Option.some.inj acknowledged⟩
    · contradiction

theorem acknowledge_of_onAir (on : h.onAir = some aired) :
    ∃ next requests, h.acknowledge ⟨aired.tag, aired.messageId⟩ = some (next, requests) := by
  simp only [acknowledge, on, and_self, if_true]
  exact ⟨_, _, rfl⟩

theorem slot?_report (reported : h.report r = .ok (next, requests)) :
    ∃ slot, h.slotFor? r.key = some slot ∧ next.capacity = h.capacity ∧
      ∀ i, next.slot? i = if i = slot then some r else h.slot? i := by
  obtain ⟨slot, found, cases⟩ := report_cases reported
  have stored := slot?_set h (slotFor?_lt found) (some r)
  have sized : { h with slots := h.slots.set slot (some r) }.capacity = h.capacity := by
    simp [capacity]
  refine ⟨slot, found, ?_⟩
  rcases cases with ⟨anew, -⟩ | ⟨aired, -, ⟨-, rfl, -⟩ | ⟨-, -, rfl, -⟩⟩
  · obtain ⟨same, slots⟩ := slot?_of_airFrom anew
    exact ⟨same.trans sized, fun i => (slots i).trans (stored i)⟩
  · exact ⟨sized, stored⟩
  · exact ⟨sized, stored⟩

theorem slot?_acknowledge
    (acknowledged : h.acknowledge a = some (next, requests)) :
    ∃ aired, h.onAir = some aired ∧ next.capacity = h.capacity ∧
      ∀ i, next.slot? i = if i = aired.slot then none else h.slot? i := by
  obtain ⟨aired, on, -, -, anew⟩ := acknowledge_eq_some acknowledged
  obtain ⟨sized, slots⟩ := slot?_of_airFrom anew
  refine ⟨aired, on, sized.trans (by simp [capacity]), fun i => (slots i).trans ?_⟩
  by_cases inside : aired.slot < h.capacity
  · exact slot?_set h inside none i
  · have same : h.slots.set aired.slot none = h.slots :=
      List.set_eq_of_length_le (Nat.not_lt.1 inside)
    rw [slot?, same, ← slot?]
    split
    · next here =>
      have beyond : h.slots[i]? = none := List.getElem?_eq_none (here ▸ Nat.not_lt.1 inside)
      simp [slot?, beyond]
    · rfl

theorem forall_report {p : HealthReport → Prop} (reported : h.report r = .ok (next, requests))
    (new : p r) (all : ∀ i q, h.slot? i = some q → p q) :
    ∀ i q, next.slot? i = some q → p q := by
  obtain ⟨slot, -, -, slots⟩ := slot?_report reported
  intro i q pending
  rw [slots] at pending
  split at pending
  · exact Option.some.inj pending ▸ new
  · exact all i q pending

theorem forall_acknowledge {p : HealthReport → Prop}
    (acknowledged : h.acknowledge a = some (next, requests))
    (all : ∀ i q, h.slot? i = some q → p q) : ∀ i q, next.slot? i = some q → p q := by
  obtain ⟨aired, -, -, slots⟩ := slot?_acknowledge acknowledged
  intro i q pending
  rw [slots] at pending
  split at pending
  · contradiction
  · exact all i q pending

theorem steady_report (steady : h.Steady) (reported : h.report r = .ok (next, requests)) :
    next.Steady := by
  obtain ⟨slot, found, cases⟩ := report_cases reported
  have stored := slot?_set h (slotFor?_lt found) (some r)
  rcases cases with ⟨anew, -⟩ | ⟨aired, on, ⟨elsewhere, rfl, -⟩ | ⟨rfl, same, rfl, -⟩⟩
  · exact steady_of_airFrom anew
  · obtain ⟨old, pending, tag⟩ := steady.occupied aired on
    refine ⟨fun again on' => ?_, fun off => by simp [on] at off⟩
    obtain rfl := Option.some.inj (on.symm.trans on')
    exact ⟨old, by rw [stored, if_neg elsewhere, pending], tag⟩
  · refine ⟨fun again on' => ?_, fun off => by simp at off⟩
    obtain rfl := Option.some.inj on'
    exact ⟨r, (stored _).trans (if_pos rfl), same.symm⟩

theorem steady_acknowledge (acknowledged : h.acknowledge a = some (next, requests)) :
    next.Steady := by
  obtain ⟨aired, -, -, -, anew⟩ := acknowledge_eq_some acknowledged
  exact steady_of_airFrom anew

theorem mem_pending_iff : r ∈ h.pending ↔ ∃ i, h.slot? i = some r := by
  simp only [pending, List.mem_filterMap, id]
  constructor
  · rintro ⟨content, member, rfl⟩
    obtain ⟨i, stored⟩ := List.mem_iff_getElem?.1 member
    exact ⟨i, Option.join_eq_some_iff.2 stored⟩
  · rintro ⟨i, stored⟩
    exact ⟨some r, List.mem_of_getElem? (Option.join_eq_some_iff.1 stored), rfl⟩

def Apart (h : HealthReports) : Prop :=
  ∀ i j r q, h.slot? i = some r → h.slot? j = some q → r.key = q.key → i = j

theorem apart_acknowledge (apart : h.Apart)
    (acknowledged : h.acknowledge a = some (next, requests)) : next.Apart := by
  obtain ⟨aired, -, -, slots⟩ := slot?_acknowledge acknowledged
  have kept : ∀ i r, next.slot? i = some r → h.slot? i = some r := by
    intro i r pending
    rw [slots] at pending
    split at pending
    · contradiction
    · exact pending
  exact fun i j r q first second => apart i j r q (kept i r first) (kept j q second)

theorem apart_report (apart : h.Apart) (reported : h.report r = .ok (next, requests)) :
    next.Apart := by
  obtain ⟨slot, found, -, slots⟩ := slot?_report reported
  -- Whoever has the sensor of the report sits in the slot that the report takes.
  have own : ∀ j q, h.slot? j = some q → q.key = r.key → j = slot := by
    intro j q pending same
    rcases slotFor?_cases found with ⟨old, stored, key⟩ | ⟨-, others⟩
    · exact apart j slot q old pending stored (same.trans key.symm)
    · exact absurd same (others j q pending)
  intro i j p q first second same
  rw [slots] at first second
  split at first <;> split at second
  · next here there => exact here.trans there.symm
  · next here _ =>
    obtain rfl := Option.some.inj first
    exact here.trans (own j q second same.symm).symm
  · next _ there =>
    obtain rfl := Option.some.inj second
    exact (own i p first same).trans there.symm
  · exact apart i j p q first second same

theorem requests_of_airFrom (anew : h.airFrom start = (next, requests)) :
    requests = h.onAir.toList.map (fun aired => .cancel aired.tag) ++
      next.due.map (PageCopy.request 1) := by
  unfold airFrom at anew
  simp only at anew
  split at anew
  · obtain ⟨rfl, rfl⟩ := Prod.mk.inj anew
    cases h.onAir <;> rfl
  · next slot report found =>
    obtain ⟨rfl, rfl⟩ := Prod.mk.inj anew
    have occupied : h.slot? slot = some report := slot?_of_nextPending? found
    have due : { h with onAir := some ⟨slot, report.tag, h.nextId⟩, nextId := h.nextId + 1 }.due =
        [⟨report.tag, report.page h.nextId⟩] := by
      change (h.slot? slot >>= _).toList = _
      rw [occupied]
      rfl
    rw [due]
    cases h.onAir <;> rfl

theorem mem_due_iff {copy : PageCopy} :
    copy ∈ h.due ↔ ∃ aired r, h.onAir = some aired ∧ h.slot? aired.slot = some r ∧
      copy = ⟨r.tag, r.page aired.messageId⟩ := by
  have same (r : HealthReport) (id : UInt8) :
      copy = ⟨r.tag, r.page id⟩ ↔ ⟨r.tag, r.page id⟩ = copy := eq_comm
  simp [due, aired?, Option.bind_eq_some_iff, same]

theorem tag_mem_of_mem_due (sound : h.Sound) {copy : PageCopy}
    (member : copy ∈ h.due) : copy.tag ∈ tags := by
  obtain ⟨aired, report, -, pending, rfl⟩ := mem_due_iff.1 member
  exact sound.tags _ _ pending

theorem length_due_le (h : HealthReports) : h.due.length ≤ 1 := by
  unfold due
  cases h.aired? <;> simp

theorem isSome_onAir_iff (steady : h.Steady) : h.onAir.isSome ↔ h.pending ≠ [] := by
  cases on : h.onAir with
  | none => simp [pending_eq_nil_iff.2 (steady.silent on)]
  | some aired =>
    obtain ⟨r, pending, -⟩ := steady.occupied aired on
    have some_pending : h.pending ≠ [] := fun empty => by
      simp [pending_eq_nil_iff.1 empty] at pending
    simp [some_pending]

theorem due_of_onAir {r : HealthReport} (on : h.onAir = some aired)
    (pending : h.slot? aired.slot = some r) : h.due = [⟨r.tag, r.page aired.messageId⟩] := by
  simp [due, aired?, on, pending]

theorem due_of_silent (off : h.onAir = none) : h.due = [] := by
  simp [due, aired?, off]

theorem aired?_eq_none_iff (sound : h.Sound) : h.aired? = none ↔ h.pending = [] := by
  rw [← not_iff_not, ← ne_eq, ← ne_eq, ← isSome_onAir_iff sound.steady]
  cases on : h.onAir with
  | none => simp [aired?, on]
  | some aired =>
    obtain ⟨r, pending, -⟩ := sound.occupied aired on
    simp [aired?, on, pending]

theorem tag_of_mem_due (steady : h.Steady) (on : h.onAir = some aired) {copy : PageCopy}
    (member : copy ∈ h.due) : copy.tag = aired.tag := by
  obtain ⟨r, pending, tag⟩ := steady.occupied aired on
  rw [due_of_onAir on pending, List.mem_singleton] at member
  rw [member]
  exact tag

theorem due_elsewhere {slot : Nat} (steady : h.Steady) (on : h.onAir = some aired)
    (inside : slot < h.capacity) (elsewhere : aired.slot ≠ slot) :
    { h with slots := h.slots.set slot (some r) }.due = h.due := by
  obtain ⟨old, pending, -⟩ := steady.occupied aired on
  have kept := slot?_set h inside (some r) aired.slot
  rw [if_neg elsewhere, pending] at kept
  rw [due_of_onAir on pending,
    due_of_onAir (h := { h with slots := h.slots.set slot (some r) }) on kept]

theorem due_overwritten (inside : aired.slot < h.capacity)
    (overwritten : next = { h with
      slots := h.slots.set aired.slot (some r)
      onAir := some { aired with messageId := h.nextId }
      nextId := h.nextId + 1 }) : next.due = [⟨r.tag, r.page h.nextId⟩] := by
  have on : next.onAir = some { aired with messageId := h.nextId } := by rw [overwritten]
  have stored := slot?_set h inside (some r) aired.slot
  rw [if_pos rfl] at stored
  exact due_of_onAir on (by rw [overwritten]; exact stored)

variable {c : Carousel} {others : List PageCopy}

theorem airs_of_airFrom {before : HealthReports} (sound : before.Sound)
    (anew : h.airFrom start = (next, requests)) (same : h.onAir = before.onAir)
    (held : c.copies.Perm (others ++ before.due)) (foreign : ∀ copy ∈ others, copy.tag ∉ tags)
    (room : others.length + 1 ≤ c.capacity) : c.Airs requests (others ++ next.due) := by
  have length := length_due_le next
  have airs : ∀ d : Carousel, d.capacity = c.capacity → d.copies.Perm others →
      d.Airs (next.due.map (PageCopy.request 1)) (others ++ next.due) := by
    intro d same copies
    have single : next.due.flatMap (List.replicate 1) = next.due := List.flatMap_singleton' _
    have := Carousel.airs_requests 1 next.due copies (by omega)
    rwa [single] at this
  rw [requests_of_airFrom anew, same]
  cases on : before.onAir with
  | none =>
    rw [due_of_silent on, List.append_nil] at held
    exact airs c rfl held
  | some aired =>
    obtain ⟨r, pending, tag⟩ := sound.occupied aired on
    have listed : aired.tag ∈ tags := tag ▸ sound.tags _ r pending
    have cleared := Carousel.copies_remove_own held
      (fun copy member same => foreign copy member (same ▸ listed))
      fun _ => tag_of_mem_due sound.steady on
    exact Carousel.airs_cons rfl (by simp) (airs _ (by simp) cleared)

theorem airs_report (reported : h.report r = .ok (next, requests)) (sound : h.Sound)
    (listed : r.tag ∈ tags) (held : c.copies.Perm (others ++ h.due))
    (foreign : ∀ copy ∈ others, copy.tag ∉ tags) (room : others.length + 1 ≤ c.capacity) :
    next.Sound ∧ c.Airs requests (others ++ next.due) := by
  have steady := steady_report sound.steady reported
  refine ⟨⟨forall_report reported listed sound.tags, steady.occupied, steady.silent⟩, ?_⟩
  obtain ⟨slot, found, cases⟩ := report_cases reported
  have inside := slotFor?_lt found
  rcases cases with ⟨anew, -⟩ | ⟨aired, on, ⟨elsewhere, rfl, rfl⟩ | ⟨rfl, same, rfl, rfl⟩⟩
  · exact airs_of_airFrom sound anew rfl held foreign room
  · exact Carousel.airs_nil (by rwa [due_elsewhere sound.steady on inside elsewhere])
  · have replaced := Carousel.copies_replace_own r.tag (r.page h.nextId) held
      (fun copy member tag => foreign copy member (tag ▸ listed))
      fun copy member => (tag_of_mem_due sound.steady on member).trans same
    obtain ⟨old, pending, -⟩ := sound.occupied aired on
    refine Carousel.airs_cons rfl (by simp) (Carousel.airs_nil (replaced.trans (.of_eq ?_)))
    rw [due_of_onAir on pending, due_overwritten inside rfl]
    rfl

theorem airs_acknowledge (acknowledged : h.acknowledge a = some (next, requests))
    (sound : h.Sound) (held : c.copies.Perm (others ++ h.due))
    (foreign : ∀ copy ∈ others, copy.tag ∉ tags) (room : others.length + 1 ≤ c.capacity) :
    next.Sound ∧ c.Airs requests (others ++ next.due) := by
  have steady := steady_acknowledge acknowledged
  refine ⟨⟨forall_acknowledge acknowledged sound.tags, steady.occupied, steady.silent⟩, ?_⟩
  obtain ⟨aired, -, -, -, anew⟩ := acknowledge_eq_some acknowledged
  exact airs_of_airFrom sound anew rfl held foreign room

end WildlifeWarning.HealthReports
