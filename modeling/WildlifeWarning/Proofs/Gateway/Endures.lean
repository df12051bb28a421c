import WildlifeWarning.Proofs.Gateway.Run
import WildlifeWarning.Proofs.Outcome

/-! What the elementary steps of the gateway keep, every stimulus keeps.
A stimulus changes the model, announces flags, tells nodes their levels, echoes cells, forwards a
sample or hands on an acknowledgment, one after the other, until one of these is refused. -/

namespace WildlifeWarning.Gateway

open Step

variable {α : Type} {I : Gateway → Prop}

abbrev Lasts (I : Gateway → Prop) (step : Step Gateway α) : Prop := Keeps I (fun _ => I) step

/-- Kept by the elementary steps, and no matter of the model apart from the echoed classes. -/
structure Endures (I : Gateway → Prop) : Prop where
  model : ∀ g t, I g → t.parameters = g.parameters → t.echoed = g.echoed → t.air = g.air → I t
  announce : ∀ c, Lasts I (announce c)
  tell : ∀ c, Lasts I (tell c)
  echo : ∀ c, Lasts I (echo c)
  forward : ∀ report, Lasts I (onAir (Airtime.forward report))
  acknowledge : ∀ a, Lasts I (acknowledge a)
  rotate : ∀ g, I g → I g.airNext

namespace Endures

theorem forget (h : Endures I) : Lasts I forget := by
  intro g kept
  simp only [Gateway.forget, ends_bind, ends_get, ends_set]
  exact Keeps.forM (fun c _ => h.announce c) _ (h.model g _ kept rfl rfl rfl)

theorem realign (h : Endures I) : Lasts I realign := by
  intro g kept
  simp only [Gateway.realign, ends_bind, ends_get, ends_set]
  exact Keeps.forM (fun c _ => h.tell c) _ (h.model g _ kept rfl rfl rfl)

theorem sync (h : Endures I) : Lasts I sync := by
  intro g kept
  simp only [Gateway.sync, ends_bind, ends_get]
  split
  · exact (h.forget.bind fun _ => h.realign) g kept
  · exact kept

theorem place (h : Endures I) (p : Placement) : Lasts I (place p) := by
  intro g kept
  simp only [Gateway.place, ends_bind, ends_get]
  split
  · exact h.model g _ kept rfl rfl rfl
  · split
    · exact kept
    · exact kept

theorem placePage (h : Endures I) (payload : Payload) : Lasts I (placePage payload) := by
  unfold Gateway.placePage
  split
  · exact h.place _
  · exact keeps_pure ()

theorem detect (h : Endures I) (event : SensorEvent) : Lasts I (detect event) := by
  intro g kept
  simp only [Gateway.detect, ends_bind, ends_get, ends_set]
  split
  · exact h.model g _ kept rfl rfl rfl
  · split
    · exact h.model g _ kept rfl rfl rfl
    · exact h.model g _ kept rfl rfl rfl

theorem note (h : Endures I) (key : SensorKey) : Lasts I (note key) := by
  intro g kept
  simp only [Gateway.note, ends_bind, ends_get]
  split
  · exact kept
  · refine (ends_bind _ _).2 ((ends_set _).2 ?_)
    exact Keeps.forM (fun c _ => h.announce c) _ (h.model g _ kept rfl rfl rfl)

theorem sense (h : Endures I) (event : SensorEvent) : Lasts I (sense event) := by
  refine h.sync.bind fun _ => (h.detect event).bind fun detection => ?_
  cases detection with
  | none => exact keeps_pure ()
  | some detection =>
    refine (h.note event.key).bind fun _ => (h.forward _).bind fun _ => ?_
    exact Keeps.forM fun c _ => h.echo c

theorem closeMinute (h : Endures I) : Lasts I closeMinute := by
  intro g kept
  simp only [Gateway.closeMinute, ends_bind, ends_get, ends_set]
  exact Keeps.forM (fun c _ => h.announce c) _ (h.model g _ kept rfl rfl rfl)

theorem closeHour (h : Endures I) : Lasts I closeHour := by
  intro g kept
  simp only [Gateway.closeHour, ends_bind, ends_get]
  exact Keeps.forM (fun c _ => h.announce c) g kept

theorem closeDay (h : Endures I) : Lasts I closeDay := by
  intro g kept
  simp only [Gateway.closeDay, ends_bind, ends_get, ends_set]
  exact Keeps.forM (fun c _ => h.announce c) _ (h.model g _ kept rfl rfl rfl)

theorem closeIf (ended : Bool) {period : Step Gateway Unit} (h : Lasts I period) :
    Lasts I (closeIf ended period) := by
  unfold Gateway.closeIf
  split
  · exact h
  · exact keeps_pure ()

theorem close (h : Endures I) (ticks : Ticks) : Lasts I (close ticks) := by
  refine (closeIf _ h.closeMinute).bind fun _ => ?_
  exact (closeIf _ h.closeHour).bind fun _ => closeIf _ h.closeDay

theorem advance (h : Endures I) : Lasts I advance := by
  intro g kept
  simp only [Gateway.advance, ends_bind, ends_get, ends_set]
  exact Keeps.forM (fun c _ => h.tell c) _ (h.model g _ kept rfl rfl rfl)

theorem passSecond (h : Endures I) : Lasts I passSecond := by
  refine h.sync.bind fun _ => h.advance.bind fun _ g kept => ?_
  simp only [ends_bind, ends_modify, ends_get]
  refine Ends.mono (Keeps.forM (fun c _ => h.echo c) _ kept) (fun _ g kept => ?_) fun _ _ h => h
  exact h.close _ _ (h.model g _ kept rfl rfl rfl)

theorem on (h : Endures I) (s : Stimulus) : Lasts I (on s) := by
  cases s with
  | sensor event => exact h.sense event
  | placement p => exact h.place p
  | placementPage payload => exact h.placePage payload
  | acknowledgement a => exact h.acknowledge a
  | second => exact h.passSecond
  | minute => exact h.closeMinute
  | hour => exact h.closeHour
  | day => exact h.closeDay
  | pagePeriod => exact keeps_modify h.rotate

theorem served (h : Endures I) {g : Gateway} (start : I g) (calls : List Call) :
    I (g.served calls) := by
  refine served_induction (I := I) start ?_ calls [] (List.append_nil calls).symm
  intro earlier c later _ kept
  cases c with
  | stimulus s => exact (h.on s).after (fun _ _ h => h) kept
  | drain => exact h.model _ _ kept rfl rfl rfl

end Endures

end WildlifeWarning.Gateway
