import WildlifeWarning.Proofs.Air.HealthReports
import WildlifeWarning.Proofs.Air.Sharing
import WildlifeWarning.Proofs.InTurn

/-! Health reports over time, on a carousel that they share.
The report on air is the one at whose slot the round has come to rest. How far a slot is ahead of it
no report changes, and every acknowledgment shortens it, so each pending report has its turn. -/

namespace WildlifeWarning

namespace HealthReports

/-- How many slots after one slot, round a table of `n`, another one comes. -/
def ahead (n here there : Nat) : Nat := if here ≤ there then there - here else there + n - here

theorem ahead_lt {n here there : Nat} (inside : here < n) (inside' : there < n) :
    ahead n here there < n := by
  unfold ahead
  split <;> omega

theorem ahead_eq_zero_iff {n here there : Nat} (inside : here < n) :
    ahead n here there = 0 ↔ here = there := by
  unfold ahead
  split <;> omega

theorem mod_of_lt_twice {n x : Nat} (below : x < 2 * n) : x % n = if x < n then x else x - n := by
  split
  · exact Nat.mod_eq_of_lt ‹_›
  · rw [Nat.mod_eq_sub_mod (by omega), Nat.mod_eq_of_lt (by omega)]

theorem add_ahead_mod {n here there : Nat} (inside : here < n) (inside' : there < n) :
    (here + ahead n here there) % n = there := by
  have most := ahead_lt inside inside'
  rw [mod_of_lt_twice (by omega)]
  unfold ahead
  split <;> split <;> omega

theorem ahead_step_lt {n here there step : Nat} (inside : here < n) (inside' : there < n)
    (way : step < ahead n here there) :
    ahead n ((here + 1 + step) % n) there < ahead n here there := by
  have most := ahead_lt inside inside'
  rw [mod_of_lt_twice (by omega)]
  unfold ahead at way ⊢
  split at way <;> split <;> split <;> omega

variable {h next : HealthReports} {r : HealthReport} {a : Acknowledgement} {aired : AiredReport}
  {requests : List Request} {i : Nat}

theorem nextPending?_self (pending : h.slot? i = some r) : h.nextPending? i = some (i, r) := by
  have inside := lt_capacity_of_slot? pending
  cases found : h.nextPending? i with
  | none => simp [slot?_of_nextPending?_none found i] at pending
  | some answer =>
    obtain ⟨j, q⟩ := answer
    obtain ⟨stored, step, -, way, free⟩ := nextPending?_cases found
    have first : step = 0 := by
      by_contra later
      have passed := free 0 (Nat.pos_of_ne_zero later)
      rw [Nat.add_zero, Nat.mod_eq_of_lt inside, pending] at passed
      contradiction
    obtain rfl : i = j := by rw [← way, first, Nat.add_zero, Nat.mod_eq_of_lt inside]
    rw [Option.some.inj (pending.symm.trans stored)]

theorem slot_onAir_report (reported : h.report r = .ok (next, requests))
    (on : h.onAir = some aired) : ∃ again, next.onAir = some again ∧ again.slot = aired.slot := by
  obtain ⟨slot, found, ⟨anew, here⟩ | ⟨before, on', ⟨-, rfl, -⟩ | ⟨-, -, rfl, -⟩⟩⟩ :=
    report_cases reported
  · have stored := (slot?_set h (slotFor?_lt found) (some r) slot).trans (if_pos rfl)
    cases still : next.onAir with
    | none =>
      rw [slot?_of_airFrom_silent anew still slot] at stored
      contradiction
    | some again =>
      obtain ⟨q, first, -⟩ := onAir_of_airFrom anew still
      have same := (nextPending?_self stored).symm.trans first
      exact ⟨again, rfl, (here aired on).symm ▸ (Prod.mk.inj (Option.some.inj same)).1.symm⟩
  · exact ⟨aired, on, rfl⟩
  · obtain rfl := Option.some.inj (on.symm.trans on')
    exact ⟨_, rfl, rfl⟩

theorem ahead_acknowledge (acknowledged : h.acknowledge a = some (next, requests))
    (steady : h.Steady) (on : h.onAir = some aired) (pending : h.slot? i = some r)
    (waits : aired.slot ≠ i) :
    ∃ again, next.onAir = some again ∧
      ahead h.capacity again.slot i < ahead h.capacity aired.slot i := by
  obtain ⟨before, on', -, -, anew⟩ := acknowledge_eq_some acknowledged
  obtain rfl := Option.some.inj (on'.symm.trans on)
  obtain ⟨q, occupied, -⟩ := steady.occupied before on'
  have inside := lt_capacity_of_slot? occupied
  have inside' := lt_capacity_of_slot? pending
  have kept : { h with slots := h.slots.set before.slot none }.slot? i = some r := by
    rw [slot?_set h inside, if_neg (Ne.symm waits), pending]
  have capacity : { h with slots := h.slots.set before.slot none }.capacity = h.capacity := by
    simp [HealthReports.capacity]
  cases still : next.onAir with
  | none =>
    rw [slot?_of_airFrom_silent anew still i] at kept
    contradiction
  | some again =>
    obtain ⟨p, found, -⟩ := onAir_of_airFrom anew still
    obtain ⟨-, step, -, way, free⟩ := nextPending?_cases found
    rw [capacity] at way free
    have some_way : ahead h.capacity before.slot i ≠ 0 := fun same =>
      waits ((ahead_eq_zero_iff inside).1 same)
    -- The round cannot pass the slot that waits.
    have short : step < ahead h.capacity before.slot i := by
      by_contra far
      have passed := free (ahead h.capacity before.slot i - 1) (by omega)
      rw [show before.slot + 1 + (ahead h.capacity before.slot i - 1) =
        before.slot + ahead h.capacity before.slot i by omega, add_ahead_mod inside inside',
        kept] at passed
      contradiction
    exact ⟨again, rfl, way ▸ ahead_step_lt inside inside' short⟩

theorem key_report (reported : h.report r = .ok (next, requests)) {q : HealthReport}
    (pending : h.slot? i = some q) : ∃ p, next.slot? i = some p ∧ p.key = q.key := by
  obtain ⟨slot, found, -, slots⟩ := slot?_report reported
  rw [slots]
  split
  · next here => exact ⟨r, rfl, (key_of_slotFor? found (here ▸ pending)).symm⟩
  · exact ⟨q, pending, rfl⟩

variable {c : Carousel} {own : PageTag → Bool} {before : HealthReports}

theorem held_of_airFrom {start : Nat} (steady : before.Steady)
    (anew : h.airFrom start = (next, requests)) (same : h.onAir = before.onAir)
    (ours : ∀ i q, next.slot? i = some q → own q.tag)
    (held : (c.under own).Perm before.due) (granted : (c.serve requests).1 = .ok ()) :
    ((c.serve requests).2.under own).Perm next.due := by
  have listed : ∀ copy ∈ next.due, own copy.tag := by
    intro copy member
    obtain ⟨aired, report, -, pending, rfl⟩ := mem_due_iff.1 member
    exact ours _ _ pending
  have airs : ∀ d : Carousel, d.under own = [] →
      (d.serve (next.due.map (PageCopy.request 1))).1 = .ok () →
      ((d.serve (next.due.map (PageCopy.request 1))).2.under own).Perm next.due := by
    intro d clear granted
    have aired := Carousel.under_requests listed granted
    rwa [clear, List.nil_append,
      show next.due.flatMap (List.replicate 1) = next.due from List.flatMap_singleton' _] at aired
  have asked := requests_of_airFrom anew
  rw [same] at asked
  cases on : before.onAir with
  | none =>
    rw [due_of_silent on] at held
    rw [on] at asked
    obtain rfl : requests = next.due.map (PageCopy.request 1) := asked
    exact airs c held.eq_nil granted
  | some aired =>
    rw [on] at asked
    obtain rfl : requests = .cancel aired.tag :: next.due.map (PageCopy.request 1) := asked
    refine airs (c.remove aired.tag) ?_ granted
    rw [Carousel.under_remove, List.filter_eq_nil_iff]
    intro copy member
    simpa using tag_of_mem_due steady on (held.mem_iff.1 member)

theorem held_report (reported : h.report r = .ok (next, requests)) (steady : h.Steady)
    (ours : ∀ i q, next.slot? i = some q → own q.tag) (held : (c.under own).Perm h.due)
    (granted : (c.serve requests).1 = .ok ()) :
    ((c.serve requests).2.under own).Perm next.due := by
  obtain ⟨slot, found, cases⟩ := report_cases reported
  have inside := slotFor?_lt found
  rcases cases with ⟨anew, -⟩ | ⟨aired, on, ⟨elsewhere, rfl, rfl⟩ | ⟨rfl, same, rfl, rfl⟩⟩
  · exact held_of_airFrom steady anew rfl ours held granted
  · rwa [due_elsewhere steady on inside elsewhere]
  · obtain ⟨old, pending, tag⟩ := steady.occupied aired on
    rw [due_of_onAir on pending] at held
    rw [due_overwritten inside rfl]
    simp only [Carousel.serve, Carousel.handle, Carousel.under_replace]
    simpa [tag.trans same] using held.map fun copy : PageCopy =>
      if copy.tag = r.tag then ⟨r.tag, r.page h.nextId⟩ else copy

theorem held_acknowledge (acknowledged : h.acknowledge a = some (next, requests))
    (steady : h.Steady) (ours : ∀ i q, next.slot? i = some q → own q.tag)
    (held : (c.under own).Perm h.due) (granted : (c.serve requests).1 = .ok ()) :
    ((c.serve requests).2.under own).Perm next.due := by
  obtain ⟨aired, -, -, -, anew⟩ := acknowledge_eq_some acknowledged
  exact held_of_airFrom steady anew rfl ours held granted

end HealthReports

structure Relay where
  reports : HealthReports
  carousel : Carousel

namespace Relay

inductive Turn where
  | report (r : HealthReport)
  | acknowledge (a : Acknowledgement)
  /-- Another sender changes its pages. -/
  | ask (request : Request)
  | period

def send (s : Relay) (answer : HealthReports × List Request) : Relay :=
  { reports := answer.1.settle (s.carousel.serve answer.2).1
    carousel := (s.carousel.serve answer.2).2 }

/-- A report that finds no slot and an acknowledgment of something else change nothing. -/
def after (s : Relay) : Turn → Relay
  | .report r =>
    match s.reports.report r with
    | .ok answer => s.send answer
    | .error _ => s
  | .acknowledge a =>
    match s.reports.acknowledge a with
    | some answer => s.send answer
    | none => s
  | .ask request => { s with carousel := (s.carousel.serve [request]).2 }
  | .period => { s with carousel := s.carousel.rotate }

def run (s : Relay) (turns : List Turn) : Relay := inTurn after s turns

/-- The carousel does all that the table asks for. -/
def grants (s : Relay) (requests : List Request) : Bool := (s.carousel.serve requests).1.isOk

/-- The table's own tags are no other sender's, and what it asks for is granted. -/
def admits (own : PageTag → Bool) (s : Relay) : Turn → Bool
  | .report r =>
    own r.tag && match s.reports.report r with
      | .ok (_, requests) => s.grants requests
      | .error _ => true
  | .acknowledge a =>
    match s.reports.acknowledge a with
    | some (_, requests) => s.grants requests
    | none => true
  | .ask request => !own request.tag
  | .period => true

def permits (own : PageTag → Bool) (s : Relay) (turns : List Turn) : Bool :=
  permitsInTurn after (admits own) s turns

def named (s : Relay) (a : Acknowledgement) : Bool :=
  s.reports.onAir.any fun aired => a = ⟨aired.tag, aired.messageId⟩

def retires (s : Relay) : Turn → Bool
  | .acknowledge a => s.named a
  | _ => false

/-- How many of the acknowledgments are of the page on air. -/
def retirements (s : Relay) : List Turn → Nat
  | [] => 0
  | turn :: rest => (s.retires turn).toNat + (s.after turn).retirements rest

structure Sound (own : PageTag → Bool) (n : Nat) (s : Relay) : Prop where
  sized : s.reports.capacity = n
  steady : s.reports.Steady
  ours : ∀ i r, s.reports.slot? i = some r → own r.tag
  held : (s.carousel.under own).Perm s.reports.due

variable {own : PageTag → Bool} {n i : Nat} {s : Relay} {turn : Turn} {turns : List Turn}
  {a : Acknowledgement} {aired : AiredReport} {r : HealthReport} {key : SensorKey} {left : Nat}
  {next : HealthReports} {requests : List Request}

theorem served_of_grants (granted : s.grants requests) :
    (s.carousel.serve requests).1 = .ok () := Carousel.served_of_isOk granted

theorem send_of_grants (granted : s.grants requests) :
    s.send (next, requests) = { reports := next, carousel := (s.carousel.serve requests).2 } := by
  simp only [send, served_of_grants granted, HealthReports.settle]

theorem sound_report (sound : s.Sound own n) (reported : s.reports.report r = .ok (next, requests))
    (tag : own r.tag) (granted : s.grants requests) : (s.send (next, requests)).Sound own n := by
  rw [send_of_grants granted]
  obtain ⟨-, -, same, -⟩ := HealthReports.slot?_report reported
  have ours := HealthReports.forall_report reported tag sound.ours
  exact ⟨same.trans sound.sized, HealthReports.steady_report sound.steady reported, ours,
    HealthReports.held_report reported sound.steady ours sound.held (served_of_grants granted)⟩

theorem sound_acknowledge (sound : s.Sound own n)
    (acknowledged : s.reports.acknowledge a = some (next, requests)) (granted : s.grants requests) :
    (s.send (next, requests)).Sound own n := by
  rw [send_of_grants granted]
  obtain ⟨-, -, same, -⟩ := HealthReports.slot?_acknowledge acknowledged
  have ours := HealthReports.forall_acknowledge acknowledged sound.ours
  exact ⟨same.trans sound.sized, HealthReports.steady_acknowledge acknowledged, ours,
    HealthReports.held_acknowledge acknowledged sound.steady ours sound.held
      (served_of_grants granted)⟩

theorem sound_after (sound : s.Sound own n) (admitted : s.admits own turn) :
    (s.after turn).Sound own n := by
  cases turn with
  | report r =>
    simp only [admits, Bool.and_eq_true] at admitted
    cases reported : s.reports.report r with
    | error fault => simpa only [after, reported] using sound
    | ok answer =>
      simp only [reported] at admitted
      simp only [after, reported]
      exact sound_report sound reported admitted.1 admitted.2
  | acknowledge a =>
    simp only [admits] at admitted
    cases acknowledged : s.reports.acknowledge a with
    | none => simpa only [after, acknowledged] using sound
    | some answer =>
      simp only [acknowledged] at admitted
      simp only [after, acknowledged]
      exact sound_acknowledge sound acknowledged admitted
  | ask request =>
    have foreign : own request.tag = false := by simpa [admits] using admitted
    exact ⟨sound.sized, sound.steady, sound.ours, (Carousel.under_serve foreign).trans sound.held⟩
  | period =>
    refine ⟨sound.sized, sound.steady, sound.ours, ?_⟩
    simpa only [after, Carousel.under, Carousel.copies, Carousel.slots_rotate] using sound.held

theorem sound_run (sound : s.Sound own n) (permitted : s.permits own turns) :
    (s.run turns).Sound own n :=
  inTurn_kept (motive := fun _ s => s.Sound own n) sound (fun _ _ _ => sound_after) permitted

theorem sound_start {carousel : Carousel}
    (foreign : ∀ copy ∈ carousel.copies, own copy.tag = false) :
    Sound own n { reports := .empty n, carousel } := by
  have silent := HealthReports.slot?_empty n
  have sized : (HealthReports.empty n).capacity = n := by
    simp [HealthReports.capacity, HealthReports.empty]
  refine ⟨sized, ⟨fun aired on => ?_, fun _ => silent⟩, fun i r pending => ?_, .of_eq ?_⟩
  · simp [HealthReports.empty] at on
  · simp [silent] at pending
  · exact List.filter_eq_nil_iff.2 (by simpa using foreign)

theorem named_iff : s.named a ↔
    ∃ aired, s.reports.onAir = some aired ∧ a = ⟨aired.tag, aired.messageId⟩ := by
  simp [named, Option.any_eq_true]

theorem slot?_after_named (on : s.reports.onAir = some aired) (i : Nat) :
    (s.after (.acknowledge ⟨aired.tag, aired.messageId⟩)).reports.slot? i =
      if i = aired.slot then none else s.reports.slot? i := by
  obtain ⟨next, requests, acknowledged⟩ := HealthReports.acknowledge_of_onAir on
  obtain ⟨again, on', -, slots⟩ := HealthReports.slot?_acknowledge acknowledged
  obtain rfl := Option.some.inj (on.symm.trans on')
  have settled : (s.send (next, requests)).reports.slot? i = next.slot? i := by
    simp only [send, HealthReports.settle]
    split <;> rfl
  simp only [after, acknowledged, settled, slots]

theorem after_of_not_named (other : ¬s.named a) : s.after (.acknowledge a) = s := by
  cases acknowledged : s.reports.acknowledge a with
  | none => simp only [after, acknowledged]
  | some answer =>
    obtain ⟨next, requests⟩ := answer
    obtain ⟨aired, on, page, id, -⟩ := HealthReports.acknowledge_eq_some acknowledged
    exact absurd (named_iff.2 ⟨aired, on, by rw [page, id]⟩) other

/-- A report of the sensor is in the slot, and the slot on air comes to it in so many steps. -/
def Waits (n i : Nat) (key : SensorKey) (left : Nat) (s : Relay) : Prop :=
  ∃ aired r, s.reports.onAir = some aired ∧ s.reports.slot? i = some r ∧ r.key = key ∧
    HealthReports.ahead n aired.slot i ≤ left

theorem waits_report (reported : s.reports.report r = .ok (next, requests))
    (granted : s.grants requests) (waits : s.Waits n i key left) :
    (s.send (next, requests)).Waits n i key left := by
  obtain ⟨aired, q, on, pending, same_key, most⟩ := waits
  obtain ⟨again, still, same⟩ := HealthReports.slot_onAir_report reported on
  obtain ⟨p, stored, kept⟩ := HealthReports.key_report reported pending
  rw [send_of_grants granted]
  exact ⟨again, p, still, stored, kept.trans same_key, same ▸ most⟩

theorem waits_acknowledge (sound : s.Sound own n)
    (acknowledged : s.reports.acknowledge a = some (next, requests)) (granted : s.grants requests)
    (waits : s.Waits n i key left) (off : ¬s.Waits n i key 0) :
    (s.send (next, requests)).Waits n i key (left - 1) := by
  obtain ⟨aired, r, on, pending, same_key, most⟩ := waits
  obtain rfl := sound.sized
  have elsewhere : aired.slot ≠ i := fun here => off ⟨aired, r, on, pending, same_key,
    Nat.le_of_eq ((HealthReports.ahead_eq_zero_iff
      (here ▸ HealthReports.lt_capacity_of_slot? pending)).2 here)⟩
  obtain ⟨before, on', -, slots⟩ := HealthReports.slot?_acknowledge acknowledged
  obtain rfl := Option.some.inj (on.symm.trans on')
  obtain ⟨again, still, closer⟩ :=
    HealthReports.ahead_acknowledge acknowledged sound.steady on pending elsewhere
  have stays : next.slot? i = some r := by rw [slots, if_neg (Ne.symm elsewhere), pending]
  rw [send_of_grants granted]
  exact ⟨again, r, still, stays, same_key, Nat.le_sub_one_of_lt (Nat.lt_of_lt_of_le closer most)⟩

/-- While a slot waits, it keeps its sensor and no turn takes it further from the slot on air; an
acknowledgment brings it closer. -/
theorem waits_after (sound : s.Sound own n) (admitted : s.admits own turn)
    (waits : s.Waits n i key left) (off : ¬s.Waits n i key 0) :
    (s.after turn).Waits n i key (left - (s.retires turn).toNat) := by
  cases turn with
  | report r =>
    simp only [admits, Bool.and_eq_true] at admitted
    cases reported : s.reports.report r with
    | error fault =>
      simp only [after, reported]
      exact waits
    | ok answer =>
      simp only [reported] at admitted
      simp only [after, reported]
      exact waits_report reported admitted.2 waits
  | acknowledge a =>
    by_cases named : s.named a
    · obtain ⟨aired, on, rfl⟩ := named_iff.1 named
      obtain ⟨next, requests, acknowledged⟩ := HealthReports.acknowledge_of_onAir on
      simp only [admits, acknowledged] at admitted
      simp only [after, acknowledged, retires, named]
      exact waits_acknowledge sound acknowledged admitted waits off
    · rw [after_of_not_named named, retires, Bool.eq_false_iff.2 named]
      exact waits
  | ask request => exact waits
  | period => exact waits

theorem onAir_of_waits (sound : s.Sound own n) (waits : s.Waits n i key 0) :
    ∃ aired q, s.reports.onAir = some aired ∧ aired.slot = i ∧ s.reports.slot? i = some q ∧
      q.key = key := by
  obtain ⟨aired, q, on, stored, same, none_left⟩ := waits
  obtain ⟨p, occupied, -⟩ := sound.steady.occupied aired on
  have inside := HealthReports.lt_capacity_of_slot? occupied
  rw [sound.sized] at inside
  have here := (HealthReports.ahead_eq_zero_iff inside).1 (Nat.le_zero.1 none_left)
  exact ⟨aired, q, on, here, stored, same⟩

theorem comes_on_air (sound : s.Sound own n) (permitted : s.permits own turns)
    (waits : s.Waits n i key left) (enough : left ≤ s.retirements turns) :
    ∃ earlier later, turns = earlier ++ later ∧ s.retirements earlier ≤ left ∧
      ∃ aired q, (s.run earlier).reports.onAir = some aired ∧ aired.slot = i ∧
        (s.run earlier).reports.slot? i = some q ∧ q.key = key := by
  -- Over all starts, as each turn is the start of the rest, with fewer steps left if it retires.
  induction turns generalizing s left with
  | nil =>
    obtain rfl := Nat.le_zero.1 enough
    exact ⟨[], [], rfl, Nat.le_refl _, onAir_of_waits sound waits⟩
  | cons turn rest ih =>
    by_cases now : s.Waits n i key 0
    · exact ⟨[], turn :: rest, rfl, Nat.zero_le _, onAir_of_waits sound now⟩
    · obtain ⟨first, onward⟩ := permitsInTurn_cons.1 permitted
      simp only [retirements] at enough
      have some_left : left ≠ 0 := by
        rintro rfl
        exact now waits
      have one := Bool.toNat_le (s.retires turn)
      obtain ⟨earlier, later, split, few, airs⟩ := ih (sound_after sound first) onward
        (waits_after sound first waits now) (by omega)
      refine ⟨turn :: earlier, later, congrArg (turn :: ·) split, ?_, airs⟩
      simp only [retirements]
      omega

theorem waits_of_pending (sound : s.Sound own n) (pending : s.reports.slot? i = some r) :
    s.Waits n i r.key (n - 1) := by
  have some_pending : s.reports.pending ≠ [] := fun empty => by
    simp [HealthReports.pending_eq_nil_iff.1 empty] at pending
  obtain ⟨aired, on⟩ := Option.isSome_iff_exists.1
    ((HealthReports.isSome_onAir_iff sound.steady).2 some_pending)
  obtain ⟨q, occupied, -⟩ := sound.steady.occupied aired on
  have most := HealthReports.ahead_lt (HealthReports.lt_capacity_of_slot? occupied)
    (HealthReports.lt_capacity_of_slot? pending)
  rw [sound.sized] at most
  exact ⟨aired, r, on, pending, rfl, by omega⟩

/-- Whatever is reported and acknowledged, as long as the carousel does what the table asks for:
something is on air as long as anything is pending, it is the present content of its slot under the
id on air, an acknowledgment of it frees that slot and any other does nothing, and a pending report
comes on air before `n` pages are acknowledged. -/
theorem reports_take_turns (n : Nat) (carousel : Carousel) (own : PageTag → Bool)
    (turns : List Turn) (foreign : ∀ copy ∈ carousel.copies, own copy.tag = false)
    (permitted : (Relay.mk (.empty n) carousel).permits own turns) :
    let s := (Relay.mk (.empty n) carousel).run turns
    (s.reports.onAir.isSome ↔ s.reports.pending ≠ []) ∧
    (s.reports.onAir = none → s.carousel.under own = []) ∧
    (∀ aired, s.reports.onAir = some aired → ∃ r, s.reports.slot? aired.slot = some r ∧
      r.tag = aired.tag ∧ s.carousel.under own = [⟨r.tag, r.page aired.messageId⟩]) ∧
    (∀ aired, s.reports.onAir = some aired → ∀ i,
      (s.after (.acknowledge ⟨aired.tag, aired.messageId⟩)).reports.slot? i =
        if i = aired.slot then none else s.reports.slot? i) ∧
    (∀ a, ¬s.named a → s.after (.acknowledge a) = s) ∧
    ∀ i r further, s.reports.slot? i = some r → s.permits own further →
      n - 1 ≤ s.retirements further →
      ∃ earlier later, further = earlier ++ later ∧ s.retirements earlier ≤ n - 1 ∧
        ∃ aired q, (s.run earlier).reports.onAir = some aired ∧ aired.slot = i ∧
          (s.run earlier).reports.slot? i = some q ∧ q.key = r.key := by
  intro s
  have sound : s.Sound own n := sound_run (sound_start foreign) permitted
  refine ⟨HealthReports.isSome_onAir_iff sound.steady, fun off => ?_, fun aired on => ?_,
    fun aired => slot?_after_named, fun a => after_of_not_named,
    fun i r further pending onward enough => ?_⟩
  · exact (sound.held.trans (.of_eq (HealthReports.due_of_silent off))).eq_nil
  · obtain ⟨r, occupied, tag⟩ := sound.steady.occupied aired on
    have held := sound.held
    rw [HealthReports.due_of_onAir on occupied] at held
    exact ⟨r, occupied, tag, held.eq_singleton⟩
  · exact comes_on_air sound onward (waits_of_pending sound pending) enough

/-- Of three reports beside another page, the one on air changes its page. -/
def reporting : List Turn :=
  let key (node : NodeId) : SensorKey := ⟨node, Facing.up.octant, .motion⟩
  [.report ⟨key 1, .hyperactive, true⟩, .ask (.broadcast .activity Payload.silence 2),
    .report ⟨key 2, .inactive, true⟩, .report ⟨key 3, .hyperactive, true⟩,
    .report ⟨key 1, .inactive, true⟩, .period]

/-- A fourth sensor takes the slot of the first one before the third has been on air. -/
def acknowledging : List Turn :=
  [.acknowledge ⟨.inactive, 1⟩, .report ⟨⟨4, Facing.up.octant, .motion⟩, .inactive, true⟩,
    .acknowledge ⟨.inactive, 2⟩]

theorem reports_take_turns_reporting :
    let start : Relay := ⟨.empty 3, .empty 3⟩
    let own : PageTag → Bool := HealthReports.tags.contains
    let s := start.run reporting
    let third : HealthReport := ⟨⟨3, 0, .motion⟩, .hyperactive, true⟩
    start.permits own reporting ∧ s.reports.slot? 2 = some third ∧ s.permits own acknowledging ∧
      3 - 1 ≤ s.retirements acknowledging ∧
      ∃ earlier later, acknowledging = earlier ++ later ∧ s.retirements earlier ≤ 3 - 1 ∧
        ∃ aired q, (s.run earlier).reports.onAir = some aired ∧ aired.slot = 2 ∧
          (s.run earlier).reports.slot? 2 = some q ∧ q.key = third.key := by
  intro start own s third
  have permitted : start.permits own reporting = true := by decide +kernel
  have pending : s.reports.slot? 2 = some third := by decide +kernel
  have onward : s.permits own acknowledging = true := by decide +kernel
  have enough : 3 - 1 ≤ s.retirements acknowledging := by decide +kernel
  obtain ⟨-, -, -, -, -, turn⟩ :=
    reports_take_turns 3 (.empty 3) own reporting (by decide) permitted
  exact ⟨permitted, pending, onward, enough, turn 2 third acknowledging pending onward enough⟩

end Relay

end WildlifeWarning
