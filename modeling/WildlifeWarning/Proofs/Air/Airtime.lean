import WildlifeWarning.Air.Airtime
import WildlifeWarning.Proofs.Air.EchoBoard
import WildlifeWarning.Proofs.Air.HealthReports
import WildlifeWarning.Proofs.Air.SampleQueue
import WildlifeWarning.Proofs.Outcome

/-! The carousel holds what its senders have on air and nothing else.
No two senders share a tag, and fourteen copies are the most that they want at one time: a carousel
of fourteen slots never runs out. -/

namespace WildlifeWarning.Airtime

open Step

def indicatorBoard : EchoBoard NodeId :=
  { name := "indicator echo slots", tag := .indicator, replicas := 1, capacity := 3 }

def activityBoard : EchoBoard UInt8 :=
  { name := "activity echo slots", tag := .activity, replicas := 2, capacity := 4 }

/-- The copies on air: the front sample twice, every indicator echo once, every activity echo twice
and the aired health report once. -/
def due (air : Airtime) : List PageCopy :=
  air.samples.front?.toList.flatMap (fun s => List.replicate 2 ⟨s.tag, s.payload⟩) ++
    air.indicatorEcho.airing.map (fun s => ⟨.indicator, s.payload⟩) ++
    air.activityEcho.airing.flatMap (fun s => List.replicate 2 ⟨.activity, s.payload⟩) ++
    air.healthReports.aired?.toList

structure Sound (air : Airtime) : Prop where
  capacity : 14 ≤ air.carousel.capacity
  copies : air.carousel.copies.Perm (air.samples.due ++ air.indicatorEcho.due ++
    air.activityEcho.due ++ air.healthReports.due)
  samples : air.samples.Sound
  indicatorEcho : indicatorBoard.Serves air.indicatorEcho
  activityEcho : activityBoard.Serves air.activityEcho
  healthReports : air.healthReports.Sound

theorem due_eq {air : Airtime} (sound : air.Sound) :
    air.due = air.samples.due ++ air.indicatorEcho.due ++ air.activityEcho.due ++
      air.healthReports.due := by
  have indicators : air.indicatorEcho.due =
      air.indicatorEcho.airing.map (fun s => ⟨.indicator, s.payload⟩) := by
    rw [sound.indicatorEcho.same]
    exact (List.flatMap_singleton' _).trans rfl
  have activities : air.activityEcho.due =
      air.activityEcho.airing.flatMap (fun s => List.replicate 2 ⟨.activity, s.payload⟩) := by
    rw [sound.activityEcho.same]
    exact List.flatMap_map ..
  rw [due, indicators, activities, SampleQueue.due, List.flatMap_map]
  rfl

/-- Refused, but not by the carousel, and still sound. -/
def RefusedElsewhere (fault : Fault) (air : Airtime) : Prop :=
  (∀ capacity, fault ≠ .capacityExhausted "page pool" capacity) ∧ air.Sound

variable {air : Airtime} {requests : List Request} {goal : List PageCopy}
  {E : Fault → Airtime → Prop}

theorem ends_transmit (air : Airtime) (airs : air.carousel.Airs requests goal) :
    (transmit requests).Ends air (fun _ t => ∃ carousel, t = { air with carousel } ∧
      carousel.capacity = air.carousel.capacity ∧ carousel.copies.Perm goal) E := by
  obtain ⟨granted, same, copies⟩ := airs
  unfold Ends transmit
  simp only [after_ofAfter, granted]
  exact ⟨_, rfl, same, copies⟩

theorem ends_transmitHealth (healthReports : HealthReports)
    (airs : air.carousel.Airs requests goal) :
    (transmitHealth healthReports requests).Ends air
      (fun _ t => ∃ carousel, t = { air with carousel, healthReports } ∧
        carousel.capacity = air.carousel.capacity ∧ carousel.copies.Perm goal) E := by
  obtain ⟨granted, same, copies⟩ := airs
  unfold Ends transmitHealth
  simp only [after_ofAfter, granted, HealthReports.settle]
  exact ⟨_, rfl, same, copies⟩

theorem ends_transmit_any (air : Airtime) :
    (transmit requests).Ends air
      (fun _ t => t = { air with carousel := (air.carousel.serve requests).2 })
      fun fault t => (∃ capacity, fault = .capacityExhausted "page pool" capacity) ∧
        t = { air with carousel := (air.carousel.serve requests).2 } := by
  unfold Ends transmit
  simp only [after_ofAfter]
  split
  · next same => exact (Prod.mk.inj same).2.symm
  · next same =>
    obtain ⟨refused, rfl⟩ := Prod.mk.inj same
    exact ⟨Carousel.fault_of_serve refused, rfl⟩

theorem ends_transmitHealth_any (air : Airtime) (healthReports : HealthReports) :
    (transmitHealth healthReports requests).Ends air
      (fun _ t => t = { air with carousel := (air.carousel.serve requests).2, healthReports })
      fun fault t => (∃ capacity, fault = .capacityExhausted "page pool" capacity) ∧
        t = { air with
          carousel := (air.carousel.serve requests).2
          healthReports := { healthReports with onAir := none } } := by
  unfold Ends transmitHealth
  simp only [after_ofAfter]
  split
  · next same =>
    obtain ⟨granted, rfl⟩ := Prod.mk.inj same
    rw [granted]
    rfl
  · next same =>
    obtain ⟨refused, rfl⟩ := Prod.mk.inj same
    refine ⟨Carousel.fault_of_serve refused, ?_⟩
    rw [refused]
    rfl

/-- What one sender has on air beside the others: they leave it its tags and room for `most`
copies. -/
structure Share (air : Airtime) (own : List PageCopy) (tags : List PageTag) (most : Nat)
    (others : List PageCopy) : Prop where
  held : air.carousel.copies.Perm (others ++ own)
  foreign : ∀ copy ∈ others, copy.tag ∉ tags
  room : others.length + most ≤ air.carousel.capacity

structure Demand (own : List PageCopy) (tags : List PageTag) (most : Nat) : Prop where
  tags : ∀ copy ∈ own, copy.tag ∈ tags
  length : own.length ≤ most

theorem demand_samples (sound : air.Sound) : Demand air.samples.due SampleQueue.tags 2 :=
  ⟨fun _ => SampleQueue.tag_mem_of_mem_due sound.samples, SampleQueue.length_due_le _⟩

theorem demand_indicatorEcho (sound : air.Sound) : Demand air.indicatorEcho.due [.indicator] 3 :=
  ⟨fun _ member => List.mem_singleton.2
    ((EchoBoard.tag_of_mem_due member).trans sound.indicatorEcho.tag_eq),
    sound.indicatorEcho.length_due_le⟩

theorem demand_activityEcho (sound : air.Sound) : Demand air.activityEcho.due [.activity] 8 :=
  ⟨fun _ member => List.mem_singleton.2
    ((EchoBoard.tag_of_mem_due member).trans sound.activityEcho.tag_eq),
    sound.activityEcho.length_due_le⟩

theorem demand_healthReports (sound : air.Sound) :
    Demand air.healthReports.due HealthReports.tags 1 :=
  ⟨fun _ => HealthReports.tag_mem_of_mem_due sound.healthReports, HealthReports.length_due_le _⟩

/-- Three senders with other tags leave a fourth its share of a carousel with room for all. -/
theorem share_of_demands {own a b c : List PageCopy} {tags ta tb tc : List PageTag}
    {most na nb nc : Nat} (held : air.carousel.copies.Perm (a ++ b ++ c ++ own))
    (first : Demand a ta na) (second : Demand b tb nb) (third : Demand c tc nc)
    (foreign : ∀ tag ∈ ta ++ tb ++ tc, tag ∉ tags)
    (room : na + nb + nc + most ≤ air.carousel.capacity) :
    air.Share own tags most (a ++ b ++ c) := by
  refine ⟨held, fun copy member => foreign _ ?_, ?_⟩
  · simp only [List.mem_append] at member ⊢
    exact member.imp (Or.imp (first.tags copy) (second.tags copy)) (third.tags copy)
  · have := first.length
    have := second.length
    have := third.length
    simp only [List.length_append]
    omega

variable (a b c d : List PageCopy)

theorem perm_first_last : (a ++ b ++ c ++ d).Perm (b ++ c ++ d ++ a) := by
  simpa only [List.append_assoc] using @List.perm_append_comm _ a (b ++ (c ++ d))

theorem perm_second_last : (a ++ b ++ c ++ d).Perm (a ++ c ++ d ++ b) := by
  simpa only [List.append_assoc] using (@List.perm_append_comm _ b (c ++ d)).append_left a

theorem perm_third_last : (a ++ b ++ c ++ d).Perm (a ++ b ++ d ++ c) := by
  simpa only [List.append_assoc] using (@List.perm_append_comm _ c d).append_left (a ++ b)

theorem ends_samples {samples : SampleQueue} (sound : air.Sound)
    (airs : ∀ others, air.Share air.samples.due SampleQueue.tags 2 others →
      samples.Sound ∧ air.carousel.Airs requests (others ++ samples.due)) :
    (transmit requests).Ends { air with samples } (fun _ => Sound) E := by
  have share : air.Share air.samples.due SampleQueue.tags 2 _ :=
    share_of_demands (sound.copies.trans (perm_first_last ..)) (demand_indicatorEcho sound)
      (demand_activityEcho sound) (demand_healthReports sound) (by decide) sound.capacity
  obtain ⟨next, airs⟩ := airs _ share
  refine (ends_transmit { air with samples } airs).mono ?_ fun _ _ h => h
  rintro - - ⟨carousel, rfl, same, copies⟩
  exact ⟨same ▸ sound.capacity, copies.trans (perm_first_last ..).symm, next,
    sound.indicatorEcho, sound.activityEcho, sound.healthReports⟩

theorem ends_indicatorEcho {board : EchoBoard NodeId} (sound : air.Sound)
    (airs : ∀ others, air.Share air.indicatorEcho.due [.indicator] 3 others →
      indicatorBoard.Serves board ∧ air.carousel.Airs requests (others ++ board.due)) :
    (transmit requests).Ends { air with indicatorEcho := board } (fun _ => Sound) E := by
  have share : air.Share air.indicatorEcho.due [.indicator] 3 _ :=
    share_of_demands (sound.copies.trans (perm_second_last ..)) (demand_samples sound)
      (demand_activityEcho sound) (demand_healthReports sound) (by decide) sound.capacity
  obtain ⟨next, airs⟩ := airs _ share
  refine (ends_transmit { air with indicatorEcho := board } airs).mono ?_ fun _ _ h => h
  rintro - - ⟨carousel, rfl, same, copies⟩
  exact ⟨same ▸ sound.capacity, copies.trans (perm_second_last ..).symm, sound.samples, next,
    sound.activityEcho, sound.healthReports⟩

theorem ends_activityEcho {board : EchoBoard UInt8} (sound : air.Sound)
    (airs : ∀ others, air.Share air.activityEcho.due [.activity] 8 others →
      activityBoard.Serves board ∧ air.carousel.Airs requests (others ++ board.due)) :
    (transmit requests).Ends { air with activityEcho := board } (fun _ => Sound) E := by
  have share : air.Share air.activityEcho.due [.activity] 8 _ :=
    share_of_demands (sound.copies.trans (perm_third_last ..)) (demand_samples sound)
      (demand_indicatorEcho sound) (demand_healthReports sound) (by decide) sound.capacity
  obtain ⟨next, airs⟩ := airs _ share
  refine (ends_transmit { air with activityEcho := board } airs).mono ?_ fun _ _ h => h
  rintro - - ⟨carousel, rfl, same, copies⟩
  exact ⟨same ▸ sound.capacity, copies.trans (perm_third_last ..).symm, sound.samples,
    sound.indicatorEcho, next, sound.healthReports⟩

theorem ends_healthReports {reports : HealthReports} (sound : air.Sound)
    (airs : ∀ others, air.Share air.healthReports.due HealthReports.tags 1 others →
      reports.Sound ∧ air.carousel.Airs requests (others ++ reports.due)) :
    (transmitHealth reports requests).Ends air (fun _ => Sound) E := by
  have share : air.Share air.healthReports.due HealthReports.tags 1 _ :=
    share_of_demands sound.copies (demand_samples sound) (demand_indicatorEcho sound)
      (demand_activityEcho sound) (by decide) sound.capacity
  obtain ⟨next, airs⟩ := airs _ share
  refine (ends_transmitHealth reports airs).mono ?_ fun _ _ h => h
  rintro - - ⟨carousel, rfl, same, copies⟩
  exact ⟨same ▸ sound.capacity, copies, sound.samples, sound.indicatorEcho, sound.activityEcho,
    next⟩

theorem keeps_forward {report : Report} (own : report.tag ∈ SampleQueue.tags) :
    Keeps Sound RefusedElsewhere (forward report) := by
  intro air sound
  refine (ends_bind _ _).2 ((ends_get).2 ((ends_bind _ _).2 ((ends_modify _).2 ?_)))
  refine ends_samples sound fun others share => ?_
  exact ⟨SampleQueue.sound_push sound.samples own,
    SampleQueue.airs_push report sound.samples share.held share.foreign share.room⟩

theorem elsewhere_of_publish {κ : Type} [DecidableEq κ] {fresh b : EchoBoard κ} {key : κ}
    {build : UInt8 → Payload} {fault : Fault} (refused : b.publish key build = .error fault)
    (serves : fresh.Serves b) (other : fresh.name ≠ "page pool") (capacity : Nat) :
    fault ≠ .capacityExhausted "page pool" capacity := by
  intro same
  rw [EchoBoard.fault_of_publish refused, serves.name_eq] at same
  exact other (Fault.capacityExhausted.inj same).1

theorem keeps_echoCommand (c : IndicatorCommand) :
    Keeps Sound RefusedElsewhere (echoCommand c) := by
  intro air sound
  simp only [echoCommand, ends_bind, ends_get]
  split
  · next fault refused =>
    exact ⟨elsewhere_of_publish refused sound.indicatorEcho (by decide), sound⟩
  · next board requests published =>
    refine (ends_bind _ _).2 ((ends_modify _).2 (ends_indicatorEcho sound fun others share => ?_))
    have foreign : ∀ copy ∈ others, copy.tag ≠ .indicator := by simpa using share.foreign
    exact ⟨EchoBoard.serves_publish published sound.indicatorEcho,
      EchoBoard.airs_publish published sound.indicatorEcho share.held foreign share.room⟩

theorem keeps_echo (c : Cell) (value : Single) (class_ : Classification) :
    Keeps Sound RefusedElsewhere (echo c value class_) := by
  intro air sound
  simp only [echo, ends_bind, ends_get]
  split
  · next fault refused =>
    exact ⟨elsewhere_of_publish refused sound.activityEcho (by decide), sound⟩
  · next board requests published =>
    refine (ends_bind _ _).2 ((ends_modify _).2 (ends_activityEcho sound fun others share => ?_))
    have foreign : ∀ copy ∈ others, copy.tag ≠ .activity := by simpa using share.foreign
    exact ⟨EchoBoard.serves_publish published sound.activityEcho,
      EchoBoard.airs_publish published sound.activityEcho share.held foreign share.room⟩

theorem keeps_reportHealth {r : HealthReport} (own : r.tag ∈ HealthReports.tags) :
    Keeps Sound RefusedElsewhere (reportHealth r) := by
  intro air sound
  simp only [reportHealth, ends_bind, ends_get]
  split
  · next fault refused =>
    refine ⟨fun capacity same => ?_, sound⟩
    rw [HealthReports.fault_of_report refused] at same
    exact absurd (Fault.capacityExhausted.inj same).1 (by decide)
  · next reports requests reported =>
    refine ends_healthReports sound fun others share => ?_
    exact HealthReports.airs_report reported sound.healthReports own share.held share.foreign
      share.room

theorem keeps_acknowledge (a : Acknowledgement) : Keeps Sound E (acknowledge a) := by
  intro air sound
  simp only [acknowledge, ends_bind, ends_get]
  split
  · next samples requests acknowledged =>
    refine (ends_bind _ _).2 ((ends_set _).2 (ends_samples sound fun others share => ?_))
    exact SampleQueue.airs_acknowledge acknowledged sound.samples share.held share.foreign
      share.room
  · split
    · next board requests acknowledged =>
      refine (ends_bind _ _).2 ((ends_set _).2 (ends_indicatorEcho sound fun others share => ?_))
      have foreign : ∀ copy ∈ others, copy.tag ≠ .indicator := by simpa using share.foreign
      exact EchoBoard.airs_acknowledge acknowledged sound.indicatorEcho share.held foreign
        share.room
    · split
      · next board requests acknowledged =>
        refine (ends_bind _ _).2 ((ends_set _).2 (ends_activityEcho sound fun others share => ?_))
        have foreign : ∀ copy ∈ others, copy.tag ≠ .activity := by simpa using share.foreign
        exact EchoBoard.airs_acknowledge acknowledged sound.activityEcho share.held foreign
          share.room
      · split
        · next reports requests acknowledged =>
          refine ends_healthReports sound fun others share => ?_
          exact HealthReports.airs_acknowledge acknowledged sound.healthReports share.held
            share.foreign share.room
        · exact sound

theorem sound_rotate {air : Airtime} (sound : air.Sound) :
    { air with carousel := air.carousel.rotate }.Sound := by
  have capacity : air.carousel.rotate.capacity = air.carousel.capacity := by
    simp [Carousel.capacity]
  have copies : air.carousel.rotate.copies = air.carousel.copies := by simp [Carousel.copies]
  exact ⟨capacity ▸ sound.capacity, copies ▸ sound.copies, sound.samples, sound.indicatorEcho,
    sound.activityEcho, sound.healthReports⟩

end WildlifeWarning.Airtime
