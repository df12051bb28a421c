import WildlifeWarning.Proofs.Air.Airtime
import WildlifeWarning.Proofs.Gateway.Scope

/-! Invariants of the single senders.
What each sender keeps in its own steps holds of all four at any time, whether or not the carousel
has room for what they ask of it. -/

namespace WildlifeWarning.Gateway

open Step

structure Laws where
  samples : SampleQueue → Prop := fun _ => True
  indicatorEcho : EchoBoard NodeId → Prop := Airtime.indicatorBoard.Serves
  activityEcho : EchoBoard UInt8 → Prop := Airtime.activityBoard.Serves
  healthReports : HealthReports → Prop := fun _ => True

def Answers {σ : Type} (law : σ → Prop) (refused : Fault → Prop) :
    Except Fault (σ × List Request) → Prop
  | .ok (next, _) => law next
  | .error fault => refused fault

namespace Laws

structure Hold (l : Laws) (air : Airtime) : Prop where
  samples : l.samples air.samples
  indicatorEcho : l.indicatorEcho air.indicatorEcho
  activityEcho : l.activityEcho air.activityEcho
  healthReports : l.healthReports air.healthReports

/-- An echo board keeps its law when it publishes reports under its tag for the subjects in
question. -/
structure OfBoard {κ : Type} [DecidableEq κ] (law : EchoBoard κ → Prop) (tag : PageTag)
    (subjects : κ → Prop) (refused : Fault → Prop) : Prop where
  publish : ∀ b key (report : Report), law b → subjects key → report.tag = tag →
    Answers law refused (b.publish key report.page)
  acknowledge : ∀ b a next requests, law b → b.acknowledge a = some (next, requests) → law next

/-- All senders keep their laws within a scope, and refuse no other way than allowed. -/
structure KeptOnAir (l : Laws) (w : Scope) (refused : Fault → Prop) : Prop where
  push : ∀ q (report : Report), l.samples q → report.tag ∈ SampleQueue.tags →
    l.samples (q.push report).1
  acknowledgeSample : ∀ q a next requests, l.samples q →
    q.acknowledge a = some (next, requests) → l.samples next
  indicatorEcho : OfBoard l.indicatorEcho .indicator w.nodes refused
  activityEcho : OfBoard l.activityEcho .activity (fun _ => True) refused
  report : ∀ h (r : HealthReport), l.healthReports h → w.sensors r.key →
    r.tag ∈ HealthReports.tags → Answers l.healthReports refused (h.report r)
  acknowledgeReport : ∀ h a next requests, l.healthReports h →
    h.acknowledge a = some (next, requests) → l.healthReports next
  silence : ∀ h, l.healthReports h → l.healthReports { h with onAir := none }
  unaired : ∀ capacity, refused (.capacityExhausted "page pool" capacity)

structure Kept (l : Laws) (w : Scope) (refused : Fault → Prop) : Prop
    extends KeptOnAir l w refused where
  full : ∀ pool ∈ ["topology registry", "debounce records", "sensor activity records"],
    ∀ capacity, refused (.capacityExhausted pool capacity)

variable {l : Laws} {w : Scope} {refused : Fault → Prop}

theorem ofBoard_serves {κ : Type} [DecidableEq κ] (fresh : EchoBoard κ) (subjects : κ → Prop)
    (full : ∀ capacity, refused (.capacityExhausted fresh.name capacity)) :
    OfBoard fresh.Serves fresh.tag subjects refused where
  publish b key report serves _ _ := by
    cases published : b.publish key report.page with
    | error fault =>
      rw [EchoBoard.fault_of_publish published, serves.name_eq]
      exact full _
    | ok answer => exact EchoBoard.serves_publish published serves
  acknowledge _ _ _ _ serves acknowledged := EchoBoard.serves_acknowledge acknowledged serves

abbrev KeptBy {α : Type} (l : Laws) (refused : Fault → Prop) (step : Step Airtime α) : Prop :=
  Keeps l.Hold (fun fault air => refused fault ∧ l.Hold air) step

theorem Hold.withCarousel {air : Airtime} (hold : l.Hold air) (carousel : Carousel) :
    l.Hold { air with carousel } :=
  ⟨hold.samples, hold.indicatorEcho, hold.activityEcho, hold.healthReports⟩

theorem keptBy_transmit (kept : l.KeptOnAir w refused) (requests : List Request) :
    l.KeptBy refused (Airtime.transmit requests) := fun air hold =>
  (Airtime.ends_transmit_any air).mono (by rintro - - rfl; exact hold.withCarousel _)
    (by rintro - - ⟨⟨capacity, rfl⟩, rfl⟩
        exact ⟨kept.unaired capacity, hold.withCarousel _⟩)

theorem keptBy_forward (kept : l.KeptOnAir w refused) {report : Report}
    (own : report.tag ∈ SampleQueue.tags) : l.KeptBy refused (Airtime.forward report) := by
  intro air hold
  refine (ends_bind _ _).2 (ends_get.2 ((ends_bind _ _).2 ((ends_modify _).2 ?_)))
  exact keptBy_transmit kept _ _ ⟨kept.push _ _ hold.samples own, hold.indicatorEcho,
    hold.activityEcho, hold.healthReports⟩

theorem keptBy_echoCommand (kept : l.KeptOnAir w refused) {c : IndicatorCommand}
    (known : w.nodes c.node) : l.KeptBy refused (Airtime.echoCommand c) := by
  intro air hold
  have answers := kept.indicatorEcho.publish _ c.node (Report.ofCommand c) hold.indicatorEcho known
    rfl
  simp only [Airtime.echoCommand, ends_bind, ends_get]
  split
  · next published =>
    rw [published] at answers
    exact ⟨answers, hold⟩
  · next published =>
    rw [published] at answers
    refine (ends_bind _ _).2 ((ends_modify _).2 (keptBy_transmit kept _ _ ?_))
    exact ⟨hold.samples, answers, hold.activityEcho, hold.healthReports⟩

theorem keptBy_echo (kept : l.KeptOnAir w refused) (c : Cell) (value : Single)
    (class_ : Classification) : l.KeptBy refused (Airtime.echo c value class_) := by
  intro air hold
  have answers := kept.activityEcho.publish _ c.code (Report.activity c value class_)
    hold.activityEcho trivial rfl
  simp only [Airtime.echo, ends_bind, ends_get]
  split
  · next published =>
    rw [published] at answers
    exact ⟨answers, hold⟩
  · next published =>
    rw [published] at answers
    refine (ends_bind _ _).2 ((ends_modify _).2 (keptBy_transmit kept _ _ ?_))
    exact ⟨hold.samples, hold.indicatorEcho, answers, hold.healthReports⟩

theorem keptBy_transmitHealth (kept : l.KeptOnAir w refused) {reports : HealthReports}
    (lawful : l.healthReports reports) (requests : List Request) :
    l.KeptBy refused (Airtime.transmitHealth reports requests) := fun air hold =>
  (Airtime.ends_transmitHealth_any air reports).mono
    (by rintro - - rfl
        exact ⟨hold.samples, hold.indicatorEcho, hold.activityEcho, lawful⟩)
    (by rintro - - ⟨⟨capacity, rfl⟩, rfl⟩
        exact ⟨kept.unaired capacity, hold.samples, hold.indicatorEcho,
          hold.activityEcho, kept.silence _ lawful⟩)

theorem keptBy_reportHealth (kept : l.KeptOnAir w refused) {r : HealthReport}
    (own : r.tag ∈ HealthReports.tags) (known : w.sensors r.key) :
    l.KeptBy refused (Airtime.reportHealth r) := by
  intro air hold
  have answers := kept.report _ r hold.healthReports known own
  simp only [Airtime.reportHealth, ends_bind, ends_get]
  split
  · next reported =>
    rw [reported] at answers
    exact ⟨answers, hold⟩
  · next reported =>
    rw [reported] at answers
    exact keptBy_transmitHealth kept answers _ _ hold

theorem keptBy_acknowledge (kept : l.KeptOnAir w refused) (a : Acknowledgement) :
    l.KeptBy refused (Airtime.acknowledge a) := by
  intro air hold
  simp only [Airtime.acknowledge, ends_bind, ends_get]
  split
  · next acknowledged =>
    refine (ends_bind _ _).2 ((ends_set _).2 (keptBy_transmit kept _ _ ?_))
    exact ⟨kept.acknowledgeSample _ a _ _ hold.samples acknowledged, hold.indicatorEcho,
      hold.activityEcho, hold.healthReports⟩
  · split
    · next acknowledged =>
      refine (ends_bind _ _).2 ((ends_set _).2 (keptBy_transmit kept _ _ ?_))
      exact ⟨hold.samples, kept.indicatorEcho.acknowledge _ a _ _ hold.indicatorEcho acknowledged,
        hold.activityEcho, hold.healthReports⟩
    · split
      · next acknowledged =>
        refine (ends_bind _ _).2 ((ends_set _).2 (keptBy_transmit kept _ _ ?_))
        exact ⟨hold.samples, hold.indicatorEcho,
          kept.activityEcho.acknowledge _ a _ _ hold.activityEcho acknowledged, hold.healthReports⟩
      · split
        · next acknowledged =>
          exact keptBy_transmitHealth kept
            (kept.acknowledgeReport _ a _ _ hold.healthReports acknowledged) _ _ hold
        · exact hold

theorem KeptOnAir.stable (kept : l.KeptOnAir w refused) :
    StableOnAir w l.Hold fun fault air => refused fault ∧ l.Hold air where
  forward _ own := keptBy_forward kept own
  echoCommand _ known := keptBy_echoCommand kept known
  echo := keptBy_echo kept
  reportHealth _ own known := keptBy_reportHealth kept own known
  acknowledge := keptBy_acknowledge kept
  rotate _ hold := hold.withCarousel _

theorem Kept.stable (kept : l.Kept w refused) :
    Stable w l.Hold fun fault air => refused fault ∧ l.Hold air :=
  ⟨kept.toKeptOnAir.stable, fun pool named capacity _ hold => ⟨kept.full pool named capacity, hold⟩⟩

end Laws

theorem hold_fresh {p : Parameters} {d : Deployment} (alerts : AlertPanel)
    (cells : p.grid.cols = 2 ∧ p.grid.rows = 2) {l : Laws}
    (samples : l.samples (.ofCapacity d.sampleQueueCapacity))
    (indicatorEcho : l.indicatorEcho Airtime.indicatorBoard)
    (activityEcho : l.activityEcho Airtime.activityBoard)
    (healthReports : l.healthReports (.empty d.sensorErrorCapacity)) :
    l.Hold (fresh p d alerts).air := by
  have four : p.grid.rows * p.grid.cols = 4 := by rw [cells.1, cells.2]
  refine ⟨samples, indicatorEcho, ?_, healthReports⟩
  simp only [fresh, four]
  exact activityEcho

end WildlifeWarning.Gateway
