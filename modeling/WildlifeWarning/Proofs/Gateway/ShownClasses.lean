import WildlifeWarning.Proofs.Air.Airtime
import WildlifeWarning.Proofs.Air.Room
import WildlifeWarning.Proofs.Gateway.Endures
import WildlifeWarning.Proofs.Gateway.Field

/-! The classes that the monitoring application is shown.
A class is noted as echoed in the step that stores it in the cell's slot, and an acknowledgment
takes a page off the air but leaves it in its slot. So note and slot always agree, and after a
second both agree with the field. -/

namespace WildlifeWarning

open Step

theorem Classification.code_inj {a b : Classification} (same : a.code = b.code) : a = b := by
  revert same
  cases a <;> cases b <;> decide

namespace EchoBoard

/-- The class byte in the slot of a cell, which is idle as long as it has none. -/
def shown (b : EchoBoard UInt8) (c : Cell) : UInt8 :=
  ((b.find? c.code).map fun s => s.payload.byte 7).getD Classification.idle.code

theorem payload_find?_retire {κ : Type} [DecidableEq κ] (id : UInt8) (slots : List (EchoSlot κ))
    (key : κ) :
    ((retire id slots).find? fun s => s.key == key).map EchoSlot.payload =
      (slots.find? fun s => s.key == key).map EchoSlot.payload := by
  fun_induction retire id slots with
  | case1 => rfl
  | case2 s rest => by_cases here : s.key = key <;> simp [here]
  | case3 s rest _ ih => by_cases here : s.key = key <;> simp [here, ih]

variable {b next : EchoBoard UInt8} {requests : List Request}

theorem shown_acknowledge {a : Acknowledgement}
    (acknowledged : b.acknowledge a = some (next, requests)) (c : Cell) :
    next.shown c = b.shown c := by
  obtain ⟨-, -, rfl, -⟩ := acknowledge_eq_some acknowledged
  have payload := congrArg (Option.map (Payload.byte · 7))
    (payload_find?_retire a.messageId b.slots c.code)
  rw [Option.map_map, Option.map_map] at payload
  exact congrArg (·.getD Classification.idle.code) payload

theorem shown_publish {c : Cell} {value : Single} {class_ : Classification}
    (published : b.publish c.code (Report.activity c value class_).page = .ok (next, requests))
    (e : Cell) : next.shown e = if e.code = c.code then class_.code else b.shown e := by
  obtain ⟨nextId, rfl, -⟩ := publish_cases published
  split
  · next same =>
    simp only [shown, find?, same]
    rw [Keyed.find?_store_self EchoSlot.key b.slots
      ⟨c.code, b.freshId c.code, (Report.activity c value class_).page (b.freshId c.code), true⟩]
    rfl
  · next other =>
    simp only [shown, find?]
    rw [Keyed.find?_store_of_ne EchoSlot.key _ (Ne.symm other)]

end EchoBoard

namespace Airtime

theorem ends_transmit_activityEcho (air : Airtime) (requests : List Request) :
    (transmit requests).Ends air (fun _ t => t.activityEcho = air.activityEcho)
      fun _ t => t.activityEcho = air.activityEcho :=
  (ends_transmit_any air).mono (by rintro - - rfl; rfl) (by rintro - - ⟨-, rfl⟩; rfl)

theorem ends_transmitHealth_activityEcho (air : Airtime) (healthReports : HealthReports)
    (requests : List Request) :
    (transmitHealth healthReports requests).Ends air (fun _ t => t.activityEcho = air.activityEcho)
      fun _ t => t.activityEcho = air.activityEcho :=
  (ends_transmitHealth_any air healthReports).mono (by rintro - - rfl; rfl)
    (by rintro - - ⟨-, rfl⟩; rfl)

theorem ends_forward_activityEcho (air : Airtime) (report : Report) :
    (forward report).Ends air (fun _ t => t.activityEcho = air.activityEcho)
      fun _ t => t.activityEcho = air.activityEcho := by
  simp only [forward, ends_bind, ends_get, ends_modify]
  exact ends_transmit_activityEcho _ _

theorem ends_echoCommand_activityEcho (air : Airtime) (c : IndicatorCommand) :
    (echoCommand c).Ends air (fun _ t => t.activityEcho = air.activityEcho)
      fun _ t => t.activityEcho = air.activityEcho := by
  simp only [echoCommand, ends_bind, ends_get]
  split
  · rfl
  · exact (ends_bind _ _).2 ((ends_modify _).2 (ends_transmit_activityEcho _ _))

theorem ends_reportHealth_activityEcho (air : Airtime) (r : HealthReport) :
    (reportHealth r).Ends air (fun _ t => t.activityEcho = air.activityEcho)
      fun _ t => t.activityEcho = air.activityEcho := by
  simp only [reportHealth, ends_bind, ends_get]
  split
  · rfl
  · exact ends_transmitHealth_activityEcho _ _ _

def EchoAfter (a : Acknowledgement) (air t : Airtime) : Prop :=
  t.activityEcho = air.activityEcho ∨
    ∃ requests, air.activityEcho.acknowledge a = some (t.activityEcho, requests)

theorem ends_acknowledge_activityEcho (air : Airtime) (a : Acknowledgement) :
    (acknowledge a).Ends air (fun _ => EchoAfter a air) fun _ => EchoAfter a air := by
  simp only [acknowledge, ends_bind, ends_get]
  split
  · refine (ends_bind _ _).2 ((ends_set _).2 ?_)
    exact (ends_transmit_activityEcho _ _).mono (fun _ _ => .inl) fun _ _ => .inl
  · split
    · refine (ends_bind _ _).2 ((ends_set _).2 ?_)
      exact (ends_transmit_activityEcho _ _).mono (fun _ _ => .inl) fun _ _ => .inl
    · split
      · next requests acknowledged =>
        refine (ends_bind _ _).2 ((ends_set _).2 ?_)
        have taken : ∀ t : Airtime, t.activityEcho = _ → EchoAfter a air t := fun t same =>
          .inr ⟨requests, same ▸ acknowledged⟩
        exact (ends_transmit_activityEcho _ _).mono (fun _ => taken) fun _ => taken
      · split
        · exact (ends_transmitHealth_activityEcho _ _ _).mono (fun _ _ => .inl) fun _ _ => .inl
        · exact .inl rfl

/-- A page that finds a slot is stored even if the carousel has no room for its copies. -/
theorem ends_echo_activityEcho (air : Airtime) (c : Cell) (value : Single)
    (class_ : Classification) (accepted : ∀ fault,
      air.activityEcho.publish c.code (Report.activity c value class_).page ≠ .error fault) :
    let stored (t : Airtime) : Prop := ∃ requests,
      air.activityEcho.publish c.code (Report.activity c value class_).page =
        .ok (t.activityEcho, requests)
    (echo c value class_).Ends air (fun _ => stored) fun _ => stored := by
  simp only [echo, ends_bind, ends_get]
  split
  · next fault refused => exact absurd refused (accepted fault)
  · next board requests published =>
    refine (ends_bind _ _).2 ((ends_modify _).2 ?_)
    exact (ends_transmit_activityEcho _ _).mono (fun _ t same => ⟨requests, same ▸ published⟩)
      fun _ t same => ⟨requests, same ▸ published⟩

end Airtime

namespace Gateway

open ActivityGrid

/-- Every cell has a note of its class and a slot to echo it in, and what its slot shows is the
class noted. -/
structure Shows (p : Parameters) (g : Gateway) : Prop where
  parameters : g.parameters = p
  noted : g.echoed.length = p.grid.rows * p.grid.cols
  among : g.air.activityEcho.Among (p.grid.cells.map Cell.code)
  shown : ∀ c, p.grid.Contains c →
    (g.echoed[p.grid.index c]?).map Classification.code = some (g.air.activityEcho.shown c)

variable {p : Parameters} {d : Deployment} {g t : Gateway} {calls : List Call}

theorem Shows.congr (shows : g.Shows p) (parameters : t.parameters = g.parameters)
    (echoed : t.echoed = g.echoed) (echo : t.air.activityEcho = g.air.activityEcho) :
    t.Shows p :=
  ⟨parameters.trans shows.parameters, echoed ▸ shows.noted, echo ▸ shows.among,
    echoed ▸ echo ▸ shows.shown⟩

theorem lasts_onAir {step : Step Airtime Unit}
    (aside : ∀ air, step.Ends air (fun _ t => t.activityEcho = air.activityEcho)
      fun _ t => t.activityEcho = air.activityEcho) : Lasts (Shows p) (onAir step) := fun g shows =>
  (ends_within _ _ _).2 ((aside g.air).mono (fun _ _ same => shows.congr rfl rfl same)
    fun _ _ same => shows.congr rfl rfl same)

theorem lasts_acknowledge (a : Acknowledgement) : Lasts (Shows p) (acknowledge a) := by
  intro g shows
  have after : ∀ air, Airtime.EchoAfter a g.air air → Shows p { g with air } := by
    rintro air (same | ⟨requests, acknowledged⟩)
    · exact shows.congr rfl rfl same
    · exact ⟨shows.parameters, shows.noted, EchoBoard.among_acknowledge shows.among acknowledged,
        fun c inside => by rw [EchoBoard.shown_acknowledge acknowledged, shows.shown c inside]⟩
  exact (ends_within _ _ _).2 ((Airtime.ends_acknowledge_activityEcho g.air a).mono
    (fun _ => after) fun _ => after)

def Coded (p : Parameters) : Prop :=
  ∀ a b, p.grid.Contains a → p.grid.Contains b → a.code = b.code → a = b

theorem Shows.publish (shows : g.Shows p) (coded : Coded p) {c : Cell}
    (inside : p.grid.Contains c) {value : Single} {class_ : Classification} {air : Airtime}
    {requests : List Request}
    (published : g.air.activityEcho.publish c.code (Report.activity c value class_).page =
      .ok (air.activityEcho, requests)) :
    Shows p { g with echoed := g.echoed.set (p.grid.index c) class_, air } := by
  have known : c.code ∈ p.grid.cells.map Cell.code :=
    List.mem_map_of_mem (Layout.mem_cells.2 inside)
  have within : p.grid.index c < g.echoed.length := shows.noted ▸ Layout.index_lt inside
  refine ⟨shows.parameters, by simpa using shows.noted,
    EchoBoard.among_publish shows.among known published, fun e here => ?_⟩
  rw [EchoBoard.shown_publish published]
  by_cases same : e = c
  · rw [same, if_pos rfl, List.getElem?_set_self within]
    rfl
  · rw [if_neg fun code => same (coded e c here inside code),
      List.getElem?_set_ne fun index => same ((Layout.index_inj inside here).1 index).symm,
      shows.shown e here]

theorem lasts_echo (coded : Coded p) (c : Cell) : Lasts (Shows p) (echo c) := by
  intro g shows
  obtain rfl := shows.parameters
  simp only [echo, ends_bind, ends_get]
  split
  · exact shows
  · next value valued =>
    have inside : g.parameters.grid.Contains c := by
      by_contra outside
      simp [value?, outside] at valued
    have accepted := EchoBoard.publish_of_among shows.among
      (List.mem_map_of_mem (Layout.mem_cells.2 inside))
      (Report.activity c value (g.grid.classify g.parameters c)).page
    refine (ends_bind _ _).2 ((ends_set _).2 ((ends_within _ _ _).2 ?_))
    refine (Airtime.ends_echo_activityEcho g.air c value _ accepted).mono ?_ ?_
    · rintro - air ⟨requests, published⟩
      exact shows.publish coded inside published
    · rintro - air ⟨requests, published⟩
      exact shows.publish coded inside published

theorem endures_shows (coded : Coded p) : Endures (Shows p) where
  model _ _ shows parameters echoed air :=
    shows.congr parameters echoed (congrArg Airtime.activityEcho air)
  announce _ := lasts_onAir fun air => Airtime.ends_reportHealth_activityEcho air _
  tell c := (lasts_onAir fun air => Airtime.ends_echoCommand_activityEcho air c).bind fun _ =>
    keeps_modify fun _ shows => shows.congr rfl rfl rfl
  echo := lasts_echo coded
  forward report := lasts_onAir fun air => Airtime.ends_forward_activityEcho air report
  acknowledge := lasts_acknowledge
  rotate _ shows := shows.congr rfl rfl rfl

theorem shows_served (built : build p d = .ok g) (calls : List Call) :
    (g.served calls).Shows p := by
  obtain ⟨-, cols, rows, rfl⟩ := build_eq_ok built
  have coded : Coded p := by
    intro a b ha hb
    refine (Cell.code_inj ?_ ?_).1
    · exact ⟨by have := ha.1; omega, by have := ha.2; omega⟩
    · exact ⟨by have := hb.1; omega, by have := hb.2; omega⟩
  refine (endures_shows coded).served ?_ calls
  refine ⟨rfl, List.length_replicate, ⟨List.nodup_nil, List.nil_subset _, ?_⟩, fun c inside => ?_⟩
  · rw [List.length_map, Layout.length_cells]
    exact Nat.le_refl _
  · have idle : (fresh p d {}).echoed[p.grid.index c]? = some .idle := by
      simp [fresh, Layout.index_lt inside]
    rw [idle]
    rfl

theorem echoed_echoing (parameters : g.parameters = p)
    (noted : g.echoed.length = p.grid.rows * p.grid.cols)
    (valued : ∀ c, p.grid.Contains c → ∃ value, g.grid.value? p c = some value)
    {cells : List Cell} (on : ∀ c ∈ cells, p.grid.Contains c) {c : Cell}
    (inside : p.grid.Contains c) :
    (g.echoing cells).echoed.length = g.echoed.length ∧
      (g.echoing cells).echoed[p.grid.index c]? =
        if c ∈ cells then some (g.grid.classify p c) else g.echoed[p.grid.index c]? := by
  induction cells using List.reverseRecOn with
  | nil => exact ⟨rfl, rfl⟩
  | append_singleton cells e ih =>
    obtain ⟨length, classes⟩ := ih fun c member => on c (List.mem_append_left _ member)
    have here : p.grid.Contains e := on e (List.mem_append_right _ (List.mem_singleton_self e))
    obtain ⟨value, valued⟩ := valued e here
    have last : (g.echoing (cells ++ [e])).echoed =
        (g.echoing cells).echoed.set (p.grid.index e) (g.grid.classify p e) := by
      rw [echoing_concat]
      simp only [echoing, List.foldl_cons, List.foldl_nil, parameters, valued]
    rw [last]
    refine ⟨by rw [List.length_set, length], ?_⟩
    by_cases same : c = e
    · subst same
      have within : p.grid.index c < (g.echoing cells).echoed.length := by
        rw [length, noted]
        exact Layout.index_lt inside
      rw [List.getElem?_set_self within, if_pos (by simp)]
    · rw [List.getElem?_set_ne fun index => same ((Layout.index_inj here inside).1 index).symm,
        classes]
      simp [same]

theorem echoed_reclassified (parameters : g.parameters = p)
    (noted : g.echoed.length = p.grid.rows * p.grid.cols)
    (valued : ∀ c, p.grid.Contains c → ∃ value, g.grid.value? p c = some value) {c : Cell}
    (inside : p.grid.Contains c) :
    (g.echoing g.reclassified).echoed[p.grid.index c]? = some (g.grid.classify p c) := by
  have on : ∀ e ∈ g.reclassified, p.grid.Contains e := by
    intro e member
    rw [reclassified, parameters] at member
    exact Layout.mem_cells.1 (List.mem_filter.1 member).1
  rw [(echoed_echoing parameters noted valued on inside).2]
  split
  · rfl
  · next current =>
    rw [reclassified, parameters, List.mem_filter] at current
    by_contra stale
    exact current ⟨Layout.mem_cells.2 inside, by simpa using stale⟩

theorem noted_after_second (built : build p d = .ok g)
    (through : ((on .second).after (g.served calls)).1 = .ok ()) {c : Cell}
    (inside : p.grid.Contains c) :
    ((g.served calls).take (.stimulus .second)).echoed[p.grid.index c]? =
      some (((g.served calls).take (.stimulus .second)).grid.classify p c) := by
  have shows := shows_served built calls
  have leads := (leads_served g (calls ++ [.stimulus .second])).2
  rw [served_concat] at leads
  obtain ⟨valid, -, -, rfl⟩ := build_eq_ok built
  obtain ⟨air, after⟩ := (ends_passSecond ((fresh p d {}).served calls)).of_ok through
  have after : ((fresh p d {}).served calls).take (.stimulus .second) = _ := after
  rw [after] at leads ⊢
  generalize (fresh p d {}).served calls = g at *
  obtain ⟨minute, health, -, closed⟩ := closed_eq g.turned g.turned.clock.ticks
  rw [passed, closed] at leads ⊢
  obtain ⟨changes, grid⟩ := leads
  have bounded := bounded_changed (Parameters.bounding_of_valid valid)
    (bounded_atFloor (Parameters.bounding_of_valid valid)) changes
  have parameters : g.synced.advanced.parameters = p :=
    (grid_synced g).1.trans shows.parameters
  have echoed : g.synced.advanced.echoed = g.echoed := by
    change g.synced.echoed = _
    unfold synced
    split <;> rfl
  refine echoed_reclassified parameters (echoed ▸ shows.noted) (fun e here => ?_) inside
  obtain ⟨value, valued, -⟩ := bounded.cell here
  exact ⟨value, (congrArg (ActivityGrid.value? p · e) grid).trans valued⟩

/-- After a second that goes through, the slot of every cell shows the cell's present class, and a
cell without a slot is idle, whatever came before and whether it went through or not. -/
theorem class_shown_after_second (calls : List Call) (built : build p d = .ok g)
    (through : ((on .second).after (g.served calls)).1 = .ok ()) {c : Cell}
    (inside : p.grid.Contains c) :
    let t := (g.served calls).take (.stimulus .second)
    (∀ s ∈ t.air.activityEcho.slots, s.key = c.code →
      s.payload.byte 7 = (t.grid.classify p c).code) ∧
    ((∀ s ∈ t.air.activityEcho.slots, s.key ≠ c.code) → t.grid.classify p c = .idle) := by
  intro t
  have shows := shows_served built (calls ++ [.stimulus .second])
  rw [served_concat] at shows
  have shown : (t.grid.classify p c).code = t.air.activityEcho.shown c := by
    have note := shows.shown c inside
    rw [noted_after_second built through inside] at note
    exact Option.some.inj note
  constructor
  · intro s member same
    have found := Keyed.find?_of_mem EchoSlot.key shows.among.distinct member
    rw [shown, EchoBoard.shown, EchoBoard.find?, ← same, found]
    rfl
  · intro none
    have absent : t.air.activityEcho.find? c.code = .none :=
      List.find?_eq_none.2 (by simpa using none)
    rw [EchoBoard.shown, absent] at shown
    exact Classification.code_inj shown

/-- Two of the cells grow and get slots, the others stay idle without. -/
theorem class_shown_after_second_sighting :
    let g := (fresh {} {} {}).served [.stimulus watch, .stimulus (motion true)]
    let t := g.take (.stimulus .second)
    ((on .second).after g).1 = .ok () ∧
      t.grid.classes {} = [.possible, .possible, .idle, .idle] ∧
      t.air.activityEcho.slots.length = 2 ∧
      ∀ c, ({} : Parameters).grid.Contains c →
        (∀ s ∈ t.air.activityEcho.slots, s.key = c.code →
          s.payload.byte 7 = (t.grid.classify {} c).code) ∧
        ((∀ s ∈ t.air.activityEcho.slots, s.key ≠ c.code) → t.grid.classify {} c = .idle) := by
  have through : ((on .second).after
      ((fresh {} {} {}).served [.stimulus watch, .stimulus (motion true)])).1 = .ok () := by
    decide +kernel
  exact ⟨through, by decide +kernel, by decide +kernel, fun c inside =>
    class_shown_after_second _ build_default through inside⟩

end Gateway

end WildlifeWarning
