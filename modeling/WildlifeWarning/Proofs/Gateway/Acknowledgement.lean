import WildlifeWarning.Proofs.Air.Headers
import WildlifeWarning.Proofs.Gateway.Airing
import WildlifeWarning.Proofs.Gateway.Laws

/-! What an acknowledgment does to a gateway.
It takes effect exactly if a page on air carries what it names, then on the sender of that page
only, and no page carries it afterwards. So one that comes late, twice or from elsewhere does
nothing. -/

namespace WildlifeWarning

inductive Sender where
  | samples
  | indicatorEcho
  | activityEcho
  | healthReports
  deriving DecidableEq

namespace Sender

def tags : Sender → List PageTag
  | samples => SampleQueue.tags
  | indicatorEcho => [.indicator]
  | activityEcho => [.activity]
  | healthReports => HealthReports.tags

theorem eq_of_mem_tags {s t : Sender} {tag : PageTag} (first : tag ∈ s.tags)
    (second : tag ∈ t.tags) : s = t := by
  have apart : ∀ s t : Sender, s ≠ t → ∀ tag ∈ s.tags, tag ∉ t.tags := by
    rintro ⟨⟩ ⟨⟩ <;> decide
  by_contra other
  exact apart s t other tag first second

end Sender

namespace Airtime

open Step Gateway

/-- What is not this sender's stays: the state of the other senders and, slot by slot, their copies
on the carousel. -/
structure OnlyOf (sender : Sender) (air next : Airtime) : Prop where
  samples : sender ≠ .samples → next.samples = air.samples
  indicatorEcho : sender ≠ .indicatorEcho → next.indicatorEcho = air.indicatorEcho
  activityEcho : sender ≠ .activityEcho → next.activityEcho = air.activityEcho
  healthReports : sender ≠ .healthReports → next.healthReports = air.healthReports
  carousel : air.carousel.SameBut sender.tags next.carousel

def dueOf (air : Airtime) : Sender → List PageCopy
  | .samples => air.samples.due
  | .indicatorEcho => air.indicatorEcho.due
  | .activityEcho => air.activityEcho.due
  | .healthReports => air.healthReports.due

/-- What a sender makes of an acknowledgment that names its page, and what it asks for. -/
def answer? (air : Airtime) (a : Acknowledgement) : Sender → Option (Airtime × List Request)
  | .samples => (air.samples.acknowledge a).map fun (samples, requests) =>
      ({ air with samples }, requests)
  | .indicatorEcho => (air.indicatorEcho.acknowledge a).map fun (indicatorEcho, requests) =>
      ({ air with indicatorEcho }, requests)
  | .activityEcho => (air.activityEcho.acknowledge a).map fun (activityEcho, requests) =>
      ({ air with activityEcho }, requests)
  | .healthReports => (air.healthReports.acknowledge a).map fun (healthReports, requests) =>
      ({ air with healthReports }, requests)

/-- Pages carry the ids under which the senders know them, and no two of one sender the same. -/
def headedLaws : Laws where
  samples := SampleQueue.Headed
  indicatorEcho b := indicatorBoard.Serves b ∧ b.Headed
  activityEcho b := activityBoard.Serves b ∧ b.Headed
  healthReports := HealthReports.Headed

theorem ofBoard_headed {κ : Type} [DecidableEq κ] (fresh : EchoBoard κ) (subjects : κ → Prop)
    (few : fresh.capacity < 256) :
    Laws.OfBoard (fun b => fresh.Serves b ∧ b.Headed) fresh.tag subjects fun _ => True where
  publish b key report law _ own := by
    cases published : b.publish key report.page with
    | error fault => trivial
    | ok answer =>
      exact ⟨EchoBoard.serves_publish published law.1,
        EchoBoard.headed_publish law.2 (Nat.lt_of_le_of_lt law.1.fits few)
          (own.trans law.1.tag_eq.symm) published⟩
  acknowledge _ _ _ _ law acknowledged :=
    ⟨EchoBoard.serves_acknowledge acknowledged law.1,
      EchoBoard.headed_acknowledge law.2 acknowledged⟩

theorem kept_headedLaws : headedLaws.Kept .all fun _ => True where
  push _ report headed _ := SampleQueue.headed_push headed report
  acknowledgeSample _ _ _ _ headed acknowledged :=
    SampleQueue.headed_acknowledge headed acknowledged
  indicatorEcho := ofBoard_headed indicatorBoard _ (by decide)
  activityEcho := ofBoard_headed activityBoard _ (by decide)
  report h r headed _ _ := by
    cases reported : h.report r with
    | error fault => trivial
    | ok answer => exact HealthReports.headed_report headed reported
  acknowledgeReport _ _ _ _ _ acknowledged := HealthReports.headed_acknowledge acknowledged
  silence _ _ _ on := absurd on (by simp)
  unaired _ := trivial
  full _ _ _ := trivial

structure Ordered (air : Airtime) : Prop where
  sound : air.Sound
  headed : headedLaws.Hold air

variable {air next : Airtime} {a : Acknowledgement} {sender : Sender} {copy : PageCopy}
  {requests : List Request}

theorem mem_copies_iff (sound : air.Sound) :
    copy ∈ air.carousel.copies ↔ ∃ sender, copy ∈ air.dueOf sender := by
  rw [sound.copies.mem_iff]
  simp only [List.mem_append]
  constructor
  · rintro (((due | due) | due) | due)
    · exact ⟨.samples, due⟩
    · exact ⟨.indicatorEcho, due⟩
    · exact ⟨.activityEcho, due⟩
    · exact ⟨.healthReports, due⟩
  · rintro ⟨⟨⟩, due⟩
    · exact .inl (.inl (.inl due))
    · exact .inl (.inl (.inr due))
    · exact .inl (.inr due)
    · exact .inr due

theorem tag_mem_of_mem_dueOf (sound : air.Sound) (due : copy ∈ air.dueOf sender) :
    copy.tag ∈ sender.tags := by
  cases sender with
  | samples => exact (demand_samples sound).tags copy due
  | indicatorEcho => exact (demand_indicatorEcho sound).tags copy due
  | activityEcho => exact (demand_activityEcho sound).tags copy due
  | healthReports => exact (demand_healthReports sound).tags copy due

theorem tagged_of_mem_dueOf (ordered : air.Ordered) (due : copy ∈ air.dueOf sender) :
    copy.Tagged := by
  obtain ⟨sound, headed⟩ := ordered
  cases sender with
  | samples =>
    obtain ⟨_, _, _, _, tagged, _⟩ := SampleQueue.header_of_mem_due headed.samples due
    exact tagged
  | indicatorEcho =>
    obtain ⟨_, _, _, tagged, _⟩ := EchoBoard.header_of_mem_due headed.indicatorEcho.2 due
    exact tagged
  | activityEcho =>
    obtain ⟨_, _, _, tagged, _⟩ := EchoBoard.header_of_mem_due headed.activityEcho.2 due
    exact tagged
  | healthReports =>
    obtain ⟨_, _, _, tagged, _⟩ := HealthReports.header_of_mem_due sound.healthReports due
    exact tagged

theorem page_mem_of_named (ordered : air.Ordered) (due : copy ∈ air.dueOf sender)
    (named : copy.isNamedBy a) : a.page ∈ sender.tags :=
  copy.tag_of_isNamedBy (tagged_of_mem_dueOf ordered due) named ▸
    tag_mem_of_mem_dueOf ordered.sound due

theorem isSome_answer?_iff (ordered : air.Ordered) (sender : Sender) :
    (air.answer? a sender).isSome ↔ ∃ copy ∈ air.dueOf sender, copy.isNamedBy a := by
  obtain ⟨sound, headed⟩ := ordered
  cases sender with
  | samples =>
    rw [answer?, Option.isSome_map]
    exact SampleQueue.isSome_acknowledge_iff headed.samples
  | indicatorEcho =>
    rw [answer?, Option.isSome_map]
    exact EchoBoard.isSome_acknowledge_iff headed.indicatorEcho.2
      (by rw [sound.indicatorEcho.replicas_eq]; decide)
  | activityEcho =>
    rw [answer?, Option.isSome_map]
    exact EchoBoard.isSome_acknowledge_iff headed.activityEcho.2
      (by rw [sound.activityEcho.replicas_eq]; decide)
  | healthReports =>
    rw [answer?, Option.isSome_map]
    exact HealthReports.isSome_acknowledge_iff sound.healthReports

theorem answer?_eq_some (ordered : air.Ordered) {t : Airtime} (after : t.Sound)
    (answer : air.answer? a sender = some (next, requests))
    (served : t = { next with carousel := (air.carousel.serve requests).2 }) :
    air.OnlyOf sender t ∧ ∀ copy ∈ t.dueOf sender, ¬copy.isNamedBy a := by
  obtain ⟨sound, headed⟩ := ordered
  cases sender with
  | samples =>
    obtain ⟨⟨samples, _⟩, acknowledged, same⟩ := Option.map_eq_some_iff.1 answer
    obtain ⟨rfl, rfl⟩ := Prod.mk.inj same
    subst served
    exact ⟨⟨fun other => absurd rfl other, fun _ => rfl, fun _ => rfl, fun _ => rfl,
      Carousel.sameBut_serve (SampleQueue.tag_of_mem_requests sound.samples acknowledged)⟩,
      SampleQueue.not_named_of_acknowledge headed.samples acknowledged⟩
  | indicatorEcho =>
    obtain ⟨⟨board, _⟩, acknowledged, same⟩ := Option.map_eq_some_iff.1 answer
    obtain ⟨rfl, rfl⟩ := Prod.mk.inj same
    subst served
    have own := EchoBoard.tag_of_mem_requests acknowledged
    rw [sound.indicatorEcho.tag_eq] at own
    exact ⟨⟨fun _ => rfl, fun other => absurd rfl other, fun _ => rfl, fun _ => rfl,
      Carousel.sameBut_serve fun request member => List.mem_singleton.2 (own request member)⟩,
      EchoBoard.not_named_of_acknowledge headed.indicatorEcho.2 acknowledged⟩
  | activityEcho =>
    obtain ⟨⟨board, _⟩, acknowledged, same⟩ := Option.map_eq_some_iff.1 answer
    obtain ⟨rfl, rfl⟩ := Prod.mk.inj same
    subst served
    have own := EchoBoard.tag_of_mem_requests acknowledged
    rw [sound.activityEcho.tag_eq] at own
    exact ⟨⟨fun _ => rfl, fun _ => rfl, fun other => absurd rfl other, fun _ => rfl,
      Carousel.sameBut_serve fun request member => List.mem_singleton.2 (own request member)⟩,
      EchoBoard.not_named_of_acknowledge headed.activityEcho.2 acknowledged⟩
  | healthReports =>
    obtain ⟨⟨reports, _⟩, acknowledged, same⟩ := Option.map_eq_some_iff.1 answer
    obtain ⟨rfl, rfl⟩ := Prod.mk.inj same
    subst served
    exact ⟨⟨fun _ => rfl, fun _ => rfl, fun _ => rfl, fun other => absurd rfl other,
      Carousel.sameBut_serve
        (HealthReports.tag_of_mem_requests sound.healthReports after.healthReports acknowledged)⟩,
      HealthReports.not_named_of_acknowledge headed.healthReports acknowledged
        after.healthReports⟩

inductive Answered (air : Airtime) (a : Acknowledgement) : Airtime → Prop where
  | unheard (silent : ∀ sender, air.answer? a sender = none) : Answered air a air
  | heard (sender : Sender) {next : Airtime} {requests : List Request}
      (answer : air.answer? a sender = some (next, requests)) :
      Answered air a { next with carousel := (air.carousel.serve requests).2 }

theorem ends_heard (sender : Sender)
    (answer : air.answer? a sender = some (next, requests))
    (same : next.carousel = air.carousel) :
    (set next >>= fun _ => transmit requests : Step Airtime Unit).Ends air
      (fun _ => air.Answered a) fun _ _ => True := by
  refine (ends_bind _ _).2 ((ends_set _).2 ((ends_transmit_any _).mono ?_ fun _ _ _ => trivial))
  rintro - - rfl
  rw [same]
  exact .heard sender answer

theorem answered_acknowledge (air : Airtime) (a : Acknowledgement) :
    (acknowledge a).Ends air (fun _ => air.Answered a) fun _ _ => True := by
  simp only [acknowledge, ends_bind, ends_get]
  split
  · next samples requests acknowledged =>
    exact ends_heard .samples (by rw [answer?, acknowledged]; rfl) rfl
  · next samples =>
    split
    · next board requests acknowledged =>
      exact ends_heard .indicatorEcho (by rw [answer?, acknowledged]; rfl) rfl
    · next indicators =>
      split
      · next board requests acknowledged =>
        exact ends_heard .activityEcho (by rw [answer?, acknowledged]; rfl) rfl
      · next activities =>
        split
        · next reports requests acknowledged =>
          refine (ends_transmitHealth_any _ _).mono ?_ fun _ _ _ => trivial
          rintro - - rfl
          exact .heard .healthReports (by rw [answer?, acknowledged]; rfl)
        · next reports =>
          refine .unheard ?_
          rintro ⟨⟩ <;> simp [answer?, samples, indicators, activities, reports]

theorem ordered_acknowledge (ordered : air.Ordered) (a : Acknowledgement) :
    ((acknowledge a).after air).1 = .ok () ∧ ((acknowledge a).after air).2.Ordered := by
  have sound := keeps_acknowledge (E := fun _ _ => False) a air ordered.sound
  have headed := Laws.keptBy_acknowledge kept_headedLaws.toKeptOnAir a air ordered.headed
  cases result : ((acknowledge a).after air).1 with
  | error fault => exact absurd (sound.of_error result) id
  | ok => exact ⟨rfl, sound.of_ok result, headed.of_ok result⟩

theorem acknowledge_cases (ordered : air.Ordered) (a : Acknowledgement) {t : Airtime}
    (after : ((acknowledge a).after air).2 = t) :
    (t = air ∧ ∀ copy ∈ air.carousel.copies, ¬copy.isNamedBy a) ∨
    (∃ sender, a.page ∈ sender.tags ∧ air.OnlyOf sender t) ∧
      (∃ copy ∈ air.carousel.copies, copy.isNamedBy a) ∧
      ∀ copy ∈ t.carousel.copies, ¬copy.isNamedBy a := by
  obtain ⟨ok, ordered'⟩ := ordered_acknowledge ordered a
  have answered := (answered_acknowledge air a).of_ok ok
  rw [after] at answered ordered'
  cases answered with
  | unheard silent =>
    refine .inl ⟨rfl, fun copy member named => ?_⟩
    obtain ⟨sender, due⟩ := (mem_copies_iff ordered.sound).1 member
    have heard := (isSome_answer?_iff ordered sender).2 ⟨copy, due, named⟩
    simp [silent sender] at heard
  | heard sender answer =>
    obtain ⟨copy, due, named⟩ :=
      (isSome_answer?_iff ordered sender).1 (Option.isSome_of_eq_some answer)
    have own := page_mem_of_named ordered due named
    obtain ⟨only, gone⟩ := answer?_eq_some ordered ordered'.sound answer rfl
    refine .inr ⟨⟨sender, own, only⟩, ⟨copy, (mem_copies_iff ordered.sound).2 ⟨sender, due⟩, named⟩,
      fun copy member named => ?_⟩
    obtain ⟨other, due⟩ := (mem_copies_iff ordered'.sound).1 member
    obtain rfl := Sender.eq_of_mem_tags own (page_mem_of_named ordered' due named)
    exact gone copy due named

end Airtime

namespace Gateway

open Step

variable {p : Parameters} {d : Deployment} {g : Gateway}

theorem ordered_served (built : build p d = .ok g) (room : 14 ≤ d.pagePoolCapacity)
    (calls : List Call) : (g.served calls).air.Ordered := by
  obtain ⟨-, cols, rows, rfl⟩ := build_eq_ok built
  have headed : Airtime.headedLaws.Hold (fresh p d {}).air :=
    hold_fresh {} ⟨cols, rows⟩ (SampleQueue.headed_of_empty rfl)
      ⟨EchoBoard.serves_self (Nat.zero_le _), EchoBoard.headed_of_empty rfl⟩
      ⟨EchoBoard.serves_self (Nat.zero_le _), EchoBoard.headed_of_empty rfl⟩
      fun _ on => absurd on (by simp [HealthReports.empty])
  exact ⟨kept_served stable_sound (fun _ _ h => h.2) (sound_fresh {} ⟨cols, rows⟩ room) calls,
    kept_served Airtime.kept_headedLaws.stable (fun _ _ h => h.2) headed calls⟩

/-- An acknowledgment changes a gateway in service if and only if a copy on the carousel carries the
page and the id in its first two bytes. Then it changes only the part of the sender that owns the
page, and no copy carries them afterwards; delivered again, it changes nothing. -/
theorem acknowledgement_names_copy (built : build p d = .ok g) (room : 14 ≤ d.pagePoolCapacity)
    (calls : List Call) (a : Acknowledgement) {t : Gateway}
    (acknowledged : (g.served calls).take (.stimulus (.acknowledgement a)) = t) :
    ((on (.acknowledgement a)).after (g.served calls)).1 = .ok () ∧
    (t ≠ g.served calls ↔ ∃ copy ∈ (g.served calls).air.carousel.copies,
      copy.payload.byte 0 = a.page.code ∧ copy.payload.byte 1 = a.messageId) ∧
    (t ≠ g.served calls → ∃ sender : Sender, a.page ∈ sender.tags ∧
      t = { g.served calls with air := t.air } ∧ (g.served calls).air.OnlyOf sender t.air) ∧
    (∀ copy ∈ t.air.carousel.copies,
      ¬(copy.payload.byte 0 = a.page.code ∧ copy.payload.byte 1 = a.messageId)) ∧
    t.take (.stimulus (.acknowledgement a)) = t := by
  have ordered := ordered_served built room calls
  have ordered' := ordered_served built room (calls ++ [.stimulus (.acknowledgement a)])
  rw [served_concat, acknowledged] at ordered'
  have air : ((Airtime.acknowledge a).after (g.served calls).air).2 = t.air :=
    congrArg Gateway.air acknowledged
  have frame : t = { g.served calls with air := t.air } := by
    rw [← air, ← acknowledged]
    rfl
  refine ⟨(Airtime.ordered_acknowledge ordered a).1, ?_⟩
  have unnamed : ∀ copy ∈ t.air.carousel.copies, ¬copy.isNamedBy a := by
    rcases Airtime.acknowledge_cases ordered a air with ⟨same, unnamed⟩ | ⟨-, -, unnamed⟩
    · rwa [same]
    · exact unnamed
  -- Nothing is named any more, so a second delivery cannot be the case that finds a page.
  have again : t.take (.stimulus (.acknowledgement a)) = t := by
    rcases Airtime.acknowledge_cases ordered' a rfl with ⟨same, -⟩ | ⟨-, ⟨copy, member, named⟩, -⟩
    · exact congrArg (fun air => { t with air }) same
    · exact absurd named (unnamed copy member)
  rcases Airtime.acknowledge_cases ordered a air with ⟨same, none⟩ | ⟨⟨sender, own, only⟩, named, -⟩
  · have same : t = g.served calls := by rw [frame, same]
    refine ⟨⟨fun changed => absurd same changed, ?_⟩, fun changed => absurd same changed, unnamed,
      again⟩
    rintro ⟨copy, member, named⟩
    exact absurd named (none copy member)
  · refine ⟨⟨fun _ => named, fun _ same => ?_⟩, fun _ => ⟨sender, own, frame, only⟩, unnamed, again⟩
    obtain ⟨copy, member, named⟩ := named
    exact unnamed copy (same ▸ member) named

/-- The sample of a sighting leaves the air with its acknowledgment, once and for all; one of an
older sample does nothing. -/
theorem acknowledgement_names_copy_sample :
    14 ≤ ({} : Deployment).pagePoolCapacity ∧
    (∃ t, ((fresh {} {} {}).served (sighting.map .stimulus)).take
        (.stimulus (.acknowledgement ⟨.motionSample, 0⟩)) = t ∧
      t ≠ (fresh {} {} {}).served (sighting.map .stimulus) ∧
      t.take (.stimulus (.acknowledgement ⟨.motionSample, 0⟩)) = t) ∧
    ((fresh {} {} {}).served (sighting.map .stimulus)).take
        (.stimulus (.acknowledgement ⟨.motionSample, 255⟩)) =
      (fresh {} {} {}).served (sighting.map .stimulus) := by
  have sample := acknowledgement_names_copy build_default (by decide) (sighting.map .stimulus)
    ⟨.motionSample, 0⟩ rfl
  have older := acknowledgement_names_copy build_default (by decide) (sighting.map .stimulus)
    ⟨.motionSample, 255⟩ rfl
  refine ⟨by decide, ⟨_, rfl, sample.2.1.2 (by decide +kernel), sample.2.2.2.2⟩, ?_⟩
  by_contra changed
  exact absurd (older.2.1.1 changed) (by decide +kernel)

end Gateway

end WildlifeWarning
