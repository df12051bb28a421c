import WildlifeWarning.Proofs.Gateway.Laws

/-! What is pending of the raised flags when the hour is over.
All flags are announced anew, the hyperactive sensors first, and of the announcements for one sensor
the last one stays pending. Of a sensor that is flagged both ways only the silence is reported. -/

namespace WildlifeWarning

namespace HealthReports

variable {h next : HealthReports} {r q : HealthReport} {requests : List Request}

theorem mem_pending_of_report (reported : h.report r = .ok (next, requests)) :
    r ∈ next.pending := by
  obtain ⟨slot, -, -, slots⟩ := slot?_report reported
  exact mem_pending_iff.2 ⟨slot, by rw [slots, if_pos rfl]⟩

theorem mem_pending_report_of_ne (reported : h.report r = .ok (next, requests))
    (pending : q ∈ h.pending) (other : q.key ≠ r.key) : q ∈ next.pending := by
  obtain ⟨slot, found, -, slots⟩ := slot?_report reported
  obtain ⟨i, stored⟩ := mem_pending_iff.1 pending
  have elsewhere : i ≠ slot := by
    rintro rfl
    exact other (key_of_slotFor? found stored)
  exact mem_pending_iff.2 ⟨i, by rw [slots, if_neg elsewhere, stored]⟩

end HealthReports

namespace Gateway

open Step

def report (c : HealthChange) : HealthReport := ⟨c.key, c.condition.tag, c.active⟩

variable {p : Parameters} {d : Deployment} {g : Gateway} {calls : List Call} {c e : HealthChange}

theorem ends_announce (g : Gateway) (c : HealthChange) :
    (announce c).Ends g
      (fun _ t => ∃ requests,
        g.air.healthReports.report (report c) = .ok (t.air.healthReports, requests))
      fun _ _ => True := by
  simp only [announce, onAir, ends_within, Airtime.reportHealth, ends_bind, ends_get]
  split
  · trivial
  · next healthReports requests reported =>
    refine (Airtime.ends_transmitHealth_any _ _).mono ?_ fun _ _ _ => trivial
    rintro - - rfl
    exact ⟨requests, reported⟩

theorem ends_announces_last (g : Gateway) (before rest : List HealthChange) (c : HealthChange)
    (last : ∀ e ∈ rest, e.key = c.key → e = c) :
    ((before ++ c :: rest).forM announce).Ends g
      (fun _ t => report c ∈ t.air.healthReports.pending) fun _ _ => True := by
  have announced : ∀ g, (announce c).Ends g
      (fun _ t => report c ∈ t.air.healthReports.pending) fun _ _ => True := fun g =>
    (ends_announce g c).mono
      (fun _ _ ⟨_, reported⟩ => HealthReports.mem_pending_of_report reported) fun _ _ h => h
  have stays : ∀ e ∈ rest, Keeps (fun t => report c ∈ t.air.healthReports.pending)
      (fun _ _ => True) (announce e) := by
    intro e member g pending
    by_cases same : e.key = c.key
    · exact last e member same ▸ announced g
    · refine (ends_announce g e).mono ?_ fun _ _ h => h
      rintro - t ⟨requests, reported⟩
      exact HealthReports.mem_pending_report_of_ne reported pending (Ne.symm same)
  refine (ends_forM_split _ before c rest).2 ((ends_announces g before).mono
    (fun _ t _ => ?_) fun _ _ _ => trivial)
  exact (announced t).mono (fun _ t pending => Keeps.forM stays t pending) fun _ _ h => h

/-- Of the flags for one sensor the silence comes last. -/
theorem last_of_flagged {h : SensorHealth} (flagged : c ∈ h.flagged)
    (alone : c.condition = .hyperactive → c.key ∉ h.silent) :
    ∃ before rest, h.flagged = before ++ c :: rest ∧ ∀ e ∈ rest, e.key = c.key → e = c := by
  rcases List.mem_append.1 flagged with crowded | silent
  · obtain ⟨before, rest, split⟩ := List.append_of_mem crowded
    obtain ⟨record, -, rfl⟩ := List.mem_map.1 crowded
    refine ⟨before, rest ++ h.silent.map (⟨·, .inactive, true⟩), ?_, fun e later same => ?_⟩
    · rw [SensorHealth.flagged, split, List.append_assoc, List.cons_append]
    · rcases List.mem_append.1 later with crowded | silent
      · have among := split ▸ List.mem_append_right before (List.mem_cons_of_mem _ crowded)
        obtain ⟨other, -, rfl⟩ := List.mem_map.1 among
        exact congrArg (HealthChange.mk · .hyperactive true) same
      · obtain ⟨key, member, rfl⟩ := List.mem_map.1 silent
        exact absurd (same ▸ member) (alone rfl)
  · obtain ⟨before, rest, split⟩ := List.append_of_mem silent
    obtain ⟨key, -, rfl⟩ := List.mem_map.1 silent
    refine ⟨(h.records.filter (·.hyperactive)).map (⟨·.key, .hyperactive, true⟩) ++ before, rest,
      ?_, fun e later same => ?_⟩
    · rw [SensorHealth.flagged, split, List.append_assoc]
    · have among := split ▸ List.mem_append_right before (List.mem_cons_of_mem _ later)
      obtain ⟨other, -, rfl⟩ := List.mem_map.1 among
      exact congrArg (HealthChange.mk · .inactive true) same

theorem active_of_flagged {h : SensorHealth} (flagged : c ∈ h.flagged) : c.active = true := by
  rcases List.mem_append.1 flagged with crowded | silent
  · obtain ⟨record, -, rfl⟩ := List.mem_map.1 crowded
    rfl
  · obtain ⟨key, -, rfl⟩ := List.mem_map.1 silent
    rfl

theorem ends_closeHour_pending (flagged : c ∈ g.health.flagged)
    (alone : c.condition = .hyperactive → c.key ∉ g.health.silent) :
    closeHour.Ends g
      (fun _ t => ⟨c.key, c.condition.tag, true⟩ ∈ t.air.healthReports.pending)
      fun _ _ => True := by
  obtain ⟨before, rest, split, last⟩ := last_of_flagged flagged alone
  have ends := ends_announces_last g before rest c last
  rw [report, active_of_flagged flagged] at ends
  simpa only [closeHour, ends_bind, ends_get, split] using ends

def apartLaws : Laws := { healthReports := HealthReports.Apart }

theorem kept_apartLaws : apartLaws.Kept .all fun _ => True where
  push _ _ _ _ := trivial
  acknowledgeSample _ _ _ _ _ _ := trivial
  indicatorEcho := Laws.ofBoard_serves Airtime.indicatorBoard _ fun _ => trivial
  activityEcho := Laws.ofBoard_serves Airtime.activityBoard _ fun _ => trivial
  report h r apart _ _ := by
    cases reported : h.report r with
    | error fault => trivial
    | ok answer => exact HealthReports.apart_report apart reported
  acknowledgeReport _ _ _ _ apart acknowledged :=
    HealthReports.apart_acknowledge apart acknowledged
  silence _ apart := apart
  unaired _ := trivial
  full _ _ _ := trivial

theorem apart_served (built : build p d = .ok g) (calls : List Call) :
    (g.served calls).air.healthReports.Apart := by
  obtain ⟨-, cols, rows, rfl⟩ := build_eq_ok built
  have apart : (HealthReports.empty d.sensorErrorCapacity).Apart := fun i j r q pending => by
    simp [HealthReports.slot?_empty] at pending
  exact (kept_served kept_apartLaws.stable (fun _ _ h => h.2)
    (hold_fresh {} ⟨cols, rows⟩ trivial (EchoBoard.serves_self (Nat.zero_le _))
      (EchoBoard.serves_self (Nat.zero_le _)) apart) calls).healthReports

/-- After an hour that goes through, the report of a raised flag is pending unless the sensor is
flagged as hyperactive and as silent: then only its silence is. -/
theorem pending_after_hour_iff (calls : List Call) (built : build p d = .ok g)
    (through : ((on .hour).after (g.served calls)).1 = .ok ()) :
    ∀ c ∈ ((g.served calls).take (.stimulus .hour)).health.flagged,
      (⟨c.key, c.condition.tag, true⟩ ∈
          ((g.served calls).take (.stimulus .hour)).air.healthReports.pending ↔
        (c.condition = .hyperactive →
          c.key ∉ ((g.served calls).take (.stimulus .hour)).health.silent)) := by
  have same : ((g.served calls).take (.stimulus .hour)).health = (g.served calls).health := by
    obtain ⟨air, after⟩ := (ends_closeHour (g.served calls)).of_ok through
    exact (congrArg Gateway.health after : ((on .hour).after (g.served calls)).2.health = _)
  have apart := apart_served built (calls ++ [.stimulus .hour])
  rw [served_concat] at apart
  rw [same]
  refine fun c flagged => ⟨fun pending hyperactive silent => ?_, fun alone =>
    (ends_closeHour_pending flagged alone).of_ok through⟩
  have silence := (ends_closeHour_pending (c := ⟨c.key, .inactive, true⟩)
    (List.mem_append_right _ (List.mem_map.2 ⟨c.key, silent, rfl⟩)) (by simp)).of_ok through
  obtain ⟨i, first⟩ := HealthReports.mem_pending_iff.1 pending
  obtain ⟨j, second⟩ := HealthReports.mem_pending_iff.1 silence
  obtain rfl := apart i j _ _ first second rfl
  have both : c.condition.tag = Condition.inactive.tag :=
    congrArg HealthReport.tag (Option.some.inj (first.symm.trans second))
  rw [hyperactive] at both
  exact absurd both (by decide)

def faller : SensorKey := ⟨1, Facing.up.octant, .motion⟩

/-- A sensor reports twice within a minute and is then silent for a day, while the other sensor of
its node reports each day. All that is on air meanwhile is acknowledged. -/
def falling : List Stimulus :=
  let quiet (rotation : Octant) : Stimulus := .sensor ⟨1, rotation, .motion false⟩
  let received (page : PageTag) (id : UInt8) : Stimulus := .acknowledgement ⟨page, id⟩
  [.placement ⟨1, ⟨0, 0⟩, .zero, Facing.down.octant, .pirPir⟩, quiet Facing.up.octant,
    quiet Facing.up.octant, quiet Facing.left.octant, .minute, received .hyperactive 0, .day,
    quiet Facing.left.octant, received .motionSample 0, received .motionSample 1,
    received .motionSample 2, received .motionSample 3, .day, received .inactive 1]

def hasty : Parameters := { hyperactivityWindow := 2 }

theorem build_hasty : build hasty {} = .ok (fresh hasty {} {}) := by
  rw [build, Parameters.validate_eq_ok_iff.2 (by decide +kernel)]
  rfl

theorem pending_after_hour_iff_falling :
    let g := (fresh hasty {} {}).served (falling.map .stimulus)
    build hasty {} = .ok (fresh hasty {} {}) ∧ ((on .hour).after g).1 = .ok () ∧
      ∀ c ∈ (g.take (.stimulus .hour)).health.flagged,
        (⟨c.key, c.condition.tag, true⟩ ∈ (g.take (.stimulus .hour)).air.healthReports.pending ↔
          (c.condition = .hyperactive →
            c.key ∉ (g.take (.stimulus .hour)).health.silent)) := by
  have through :
      ((on .hour).after ((fresh hasty {} {}).served (falling.map .stimulus))).1 = .ok () := by
    decide +kernel
  exact ⟨build_hasty, through, pending_after_hour_iff (falling.map .stimulus) build_hasty through⟩

/-- Every call went through and the sensor is flagged both ways, but its hyperactivity is not among
the reports of the hour. -/
theorem hyperactivity_not_pending_after_hour :
    build hasty {} = .ok (fresh hasty {} {}) ∧
      (fresh hasty {} {}).accepts (falling ++ [.hour]) ∧
      ((fresh hasty {} {}).after (falling ++ [.hour])).health.flagged =
        [⟨faller, .hyperactive, true⟩, ⟨faller, .inactive, true⟩] ∧
      ((fresh hasty {} {}).after (falling ++ [.hour])).air.healthReports.pending =
        [⟨faller, .inactive, true⟩] :=
  ⟨build_hasty, by decide +kernel⟩

end Gateway

end WildlifeWarning
