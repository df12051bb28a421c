import WildlifeWarning.Proofs.Gateway.Run

/-! The outbox is written and never read.
So it makes no difference when the caller takes the commands: a step does the same whatever lies in
the outbox, and puts the same commands behind it. -/

namespace WildlifeWarning.Gateway

open Step

variable {α β : Type} {earlier : List IndicatorCommand} {g : Gateway}

/-- With more commands in front of those in the outbox. -/
def behind (g : Gateway) (earlier : List IndicatorCommand) : Gateway :=
  { g with outbox := earlier ++ g.outbox }

/-- From `g` the step does the same behind earlier commands. -/
def AppendsFrom (g : Gateway) (earlier : List IndicatorCommand) (step : Step Gateway α) : Prop :=
  step.after (g.behind earlier) = ((step.after g).1, (step.after g).2.behind earlier)

def Appends (step : Step Gateway α) : Prop := ∀ g earlier, AppendsFrom g earlier step

theorem appends_pure (a : α) : Appends (pure a) := fun _ _ => rfl

theorem appends_onAir (step : Step Airtime α) : Appends (onAir step) := fun _ _ => rfl

theorem AppendsFrom.bind {step : Step Gateway α} {next : α → Step Gateway β}
    (first : AppendsFrom g earlier step) (rest : ∀ a, Appends (next a)) :
    AppendsFrom g earlier (step >>= next) := by
  unfold AppendsFrom at first ⊢
  rw [after_bind, after_bind, first]
  rcases step.after g with ⟨_ | a, t⟩
  · rfl
  · exact rest a t earlier

theorem Appends.bind {step : Step Gateway α} {next : α → Step Gateway β} (first : Appends step)
    (rest : ∀ a, Appends (next a)) : Appends (step >>= next) :=
  fun g earlier => (first g earlier).bind rest

theorem Appends.at {step : Step Gateway α} (h : Appends step) {t : Gateway}
    (same : t = g.behind earlier) :
    step.after t = ((step.after g).1, (step.after g).2.behind earlier) := same ▸ h g earlier

theorem Appends.forM {f : α → Step Gateway PUnit} (body : ∀ a, Appends (f a)) (items : List α) :
    Appends (items.forM f) := by
  induction items with
  | nil => exact appends_pure PUnit.unit
  | cons a rest ih => exact (body a).bind fun _ => ih

theorem appends_tell (c : IndicatorCommand) : Appends (tell c) := by
  refine (appends_onAir _).bind fun _ g earlier => ?_
  simp [AppendsFrom, behind]

theorem appends_announce (c : HealthChange) : Appends (announce c) := appends_onAir _

theorem appends_acknowledge (a : Acknowledgement) : Appends (acknowledge a) := appends_onAir _

theorem appends_echo (c : Cell) : Appends (echo c) := by
  intro g earlier
  simp only [echo, AppendsFrom, after_bind, after_get]
  cases known : g.grid.value? g.parameters c with
  | none =>
    simp only [behind, known]
    rfl
  | some value =>
    simp only [behind, known]
    rfl

theorem appends_forget : Appends forget := by
  intro g earlier
  simp only [forget, AppendsFrom, after_bind, after_get, after_set]
  exact (Appends.forM appends_announce _).at rfl

theorem appends_realign : Appends realign := by
  intro g earlier
  simp only [realign, AppendsFrom, after_bind, after_get, after_set]
  exact (Appends.forM appends_tell _).at rfl

theorem appends_sync : Appends sync := by
  intro g earlier
  simp only [sync, AppendsFrom, after_bind, after_get]
  by_cases pending : g.registry.changed
  · simp only [behind, pending, if_true]
    exact appends_forget.bind (fun _ => appends_realign) g earlier
  · simp only [behind, pending]
    rfl

theorem appends_place (p : Placement) : Appends (place p) := by
  intro g earlier
  simp only [place, AppendsFrom, after_bind, after_get]
  cases accepted : g.registry.accept p with
  | ok registry =>
    simp only [behind, accepted]
    rfl
  | error fault =>
    simp only [behind, accepted]
    split
    · rfl
    · rfl

theorem appends_placePage (payload : Payload) : Appends (placePage payload) := by
  unfold placePage
  split
  · exact appends_place _
  · exact appends_pure ()

theorem appends_detect (event : SensorEvent) : Appends (detect event) := by
  intro g earlier
  simp only [detect, AppendsFrom, after_bind, after_get, after_set]
  cases sensed : (Detector.sense g.parameters g.registry (g.health.isHyperactive event.key)
      g.detector g.grid event).1 with
  | ok detection =>
    simp only [behind, sensed]
    rfl
  | error fault =>
    simp only [behind, sensed]
    split
    · rfl
    · rfl

theorem appends_note (key : SensorKey) : Appends (note key) := by
  intro g earlier
  simp only [note, AppendsFrom, after_bind, after_get]
  cases recorded : g.health.record g.parameters key g.minute with
  | error fault =>
    simp only [behind, recorded]
    rfl
  | ok answer =>
    simp only [behind, recorded, after_bind, after_set]
    exact (Appends.forM appends_announce _).at rfl

theorem appends_sense (event : SensorEvent) : Appends (sense event) := by
  refine appends_sync.bind fun _ => (appends_detect event).bind fun detection => ?_
  cases detection with
  | none => exact appends_pure ()
  | some detection =>
    refine (appends_note event.key).bind fun _ => (appends_onAir _).bind fun _ => ?_
    exact Appends.forM appends_echo _

theorem appends_closeMinute : Appends closeMinute := by
  intro g earlier
  simp only [closeMinute, AppendsFrom, after_bind, after_get, after_set]
  exact (Appends.forM appends_announce _).at rfl

theorem appends_closeHour : Appends closeHour := by
  intro g earlier
  simp only [closeHour, AppendsFrom, after_bind, after_get]
  exact (Appends.forM appends_announce _).at rfl

theorem appends_closeDay : Appends closeDay := by
  intro g earlier
  simp only [closeDay, AppendsFrom, after_bind, after_get, after_set]
  exact (Appends.forM appends_announce _).at rfl

theorem appends_closeIf (ended : Bool) {period : Step Gateway Unit} (h : Appends period) :
    Appends (closeIf ended period) := by
  unfold closeIf
  split
  · exact h
  · exact appends_pure ()

theorem appends_close (ticks : Ticks) : Appends (close ticks) := by
  refine (appends_closeIf _ appends_closeMinute).bind fun _ => ?_
  exact (appends_closeIf _ appends_closeHour).bind fun _ => appends_closeIf _ appends_closeDay

theorem appends_advance : Appends advance := by
  intro g earlier
  simp only [advance, AppendsFrom, after_bind, after_get, after_set]
  exact (Appends.forM appends_tell _).at rfl

theorem appends_passSecond : Appends passSecond := by
  have closes : Appends (do
      modify fun g => { g with clock := g.clock.advance }
      close (← get).clock.ticks) := by
    intro g earlier
    simp only [AppendsFrom, after_bind, after_modify, after_get]
    exact (appends_close _).at rfl
  refine appends_sync.bind fun _ => appends_advance.bind fun _ g earlier => ?_
  exact ((Appends.forM appends_echo g.reclassified).bind fun _ => closes) g earlier

theorem appends_on (s : Stimulus) : Appends (on s) := by
  cases s with
  | sensor event => exact appends_sense event
  | placement p => exact appends_place p
  | placementPage payload => exact appends_placePage payload
  | acknowledgement a => exact appends_acknowledge a
  | second => exact appends_passSecond
  | minute => exact appends_closeMinute
  | hour => exact appends_closeHour
  | day => exact appends_closeDay
  | pagePeriod => exact fun _ _ => rfl

/-- The commands that the stimuli give, each of them heard with an empty outbox. -/
def given (g : Gateway) : List Stimulus → List IndicatorCommand
  | [] => []
  | s :: rest => ((on s).after g.drain.2).2.outbox ++ ((on s).after g).2.given rest

theorem outbox_after (g : Gateway) (stimuli : List Stimulus) :
    (g.after stimuli).outbox = g.outbox ++ g.given stimuli := by
  induction stimuli generalizing g with
  | nil => simp [given]
  | cons s rest ih =>
    have drained : g = g.drain.2.behind g.outbox := by simp [drain, behind]
    have own : ((on s).after g).2.outbox = g.outbox ++ ((on s).after g.drain.2).2.outbox := by
      rw [(appends_on s).at drained]
      rfl
    rw [after_cons, ih, own, given, List.append_assoc]

end WildlifeWarning.Gateway
