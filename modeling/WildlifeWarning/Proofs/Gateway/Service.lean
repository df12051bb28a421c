import WildlifeWarning.Proofs.Gateway.Commands

/-! A gateway in service, its commands taken by the caller from time to time.
While no change of placements is pending, the last command for the node at an indicator carries the
indicator's output, and every reinforcement period contains a second that tells all of them. -/

namespace WildlifeWarning

def Call.isSecond (c : Call) : Bool := c == .stimulus .second

structure Service where
  gateway : Gateway
  drained : List IndicatorCommand := []

namespace Service

def emitted (s : Service) : List IndicatorCommand := s.drained ++ s.gateway.outbox

def take (s : Service) : Call → Option Service
  | .stimulus stimulus =>
    match (Gateway.on stimulus).after s.gateway with
    | (.ok (), gateway) => some { s with gateway }
    | (.error _, _) => none
  | .drain =>
    let (commands, gateway) := s.gateway.drain
    some ⟨gateway, s.drained ++ commands⟩

def run (s : Service) (calls : List Call) : Option Service := calls.foldlM take s

open Gateway

variable {p : Parameters} {s t : Service}

theorem run_append (s : Service) (first rest : List Call) :
    s.run (first ++ rest) = (s.run first).bind fun t => t.run rest := List.foldlM_append

theorem take_cases {c : Call} (taken : s.take c = some t) :
    (∃ stimulus, c = .stimulus stimulus ∧ t.drained = s.drained ∧
      Effect s.gateway true stimulus t.gateway) ∨
    (c = .drain ∧ t.emitted = s.emitted ∧ t.gateway = { s.gateway with outbox := [] }) := by
  cases c with
  | stimulus stimulus =>
    have effect := effect_on s.gateway stimulus
    simp only [take] at taken
    split at taken
    · next gateway result =>
      obtain rfl := Option.some.inj taken
      have done := effect.of_ok (congrArg Prod.fst result)
      rw [result] at done
      exact .inl ⟨stimulus, rfl, rfl, done⟩
    · contradiction
  | drain =>
    obtain rfl := Option.some.inj taken
    exact .inr ⟨rfl, by simp [emitted], rfl⟩

def Told (p : Parameters) (s : Service) : Prop := Gateway.Told p s.drained s.gateway

theorem told_take (cols : p.grid.cols = 2) {c : Call} (told : s.Told p)
    (taken : s.take c = some t) : t.Told p := by
  obtain ⟨stimulus, -, drained, effect⟩ | ⟨-, emitted, gateway⟩ := take_cases taken
  · rw [Told, drained]
    exact told_of_effect cols told effect
  · obtain ⟨parameters, distinct, told⟩ := told
    refine ⟨by rw [gateway, parameters], by rw [gateway]; exact distinct, ?_⟩
    intro settled i n here
    change lastFor t.emitted n.node = _
    rw [gateway] at settled here ⊢
    rw [emitted]
    exact told settled i n here

theorem told_run (cols : p.grid.cols = 2) {calls : List Call} (told : s.Told p)
    (ran : s.run calls = some t) : t.Told p := by
  induction calls generalizing s with
  | nil => exact Option.some.inj ran ▸ told
  | cons c rest ih =>
    obtain ⟨next, taken, ran⟩ := Option.bind_eq_some_iff.1 ran
    exact ih (told_take cols told taken) ran

/-- One of the calls is a second that tells every indicator's node its level. -/
def Informed (p : Parameters) (s : Service) (window : List Call) : Prop :=
  ∃ pre post s₁ s₂ new, window = pre ++ .stimulus .second :: post ∧ s.run pre = some s₁ ∧
    s₁.take (.stimulus .second) = some s₂ ∧ s₂.emitted = s₁.emitted ++ new ∧
    s₂.gateway.Informs p new

theorem Informed.cons {c : Call} {rest : List Call} (taken : s.take c = some t)
    (informed : t.Informed p rest) : s.Informed p (c :: rest) := by
  obtain ⟨pre, post, s₁, s₂, new, split, ran, informed⟩ := informed
  refine ⟨c :: pre, post, s₁, s₂, new, by rw [split]; rfl, ?_, informed⟩
  exact Option.bind_eq_some_iff.2 ⟨t, taken, ran⟩

theorem informed_of_seconds (cols : p.grid.cols = 2) {window : List Call} (told : s.Told p)
    (ran : s.run window = some t) (some_second : 0 < window.countP Call.isSecond)
    (enough : max 1 p.reinforcementPeriod ≤
      s.gateway.alerts.sinceReinforcement + window.countP Call.isSecond) :
    s.Informed p window := by
  induction window generalizing s with
  | nil => contradiction
  | cons c rest ih =>
    obtain ⟨next, taken, onward⟩ := Option.bind_eq_some_iff.1 ran
    have later := told_take cols told taken
    rw [List.countP_cons] at some_second enough
    obtain ⟨stimulus, rfl, drained, effect⟩ | ⟨rfl, -, gateway⟩ := take_cases taken
    · rcases paced_of_effect effect with ⟨other, since⟩ |
        ⟨rfl, ⟨new, outbox, informs⟩ | ⟨since, short⟩⟩
      · have apart : Call.isSecond (.stimulus stimulus) = false := by
          simpa [Call.isSecond] using other
        rw [apart] at some_second enough
        exact (ih later onward some_second (since ▸ enough)).cons taken
      · rw [told.parameters] at informs
        refine ⟨[], rest, s, next, new, rfl, rfl, taken, ?_, informs⟩
        rw [emitted, drained, outbox, ← List.append_assoc]
        rfl
      · -- The period is not over with this second, so there is one more to come.
        rw [told.parameters] at short
        have second : Call.isSecond (.stimulus .second) = true := rfl
        rw [second] at enough
        simp only [if_true] at enough
        exact (ih later onward (by omega) (by omega)).cons taken
    · have since : next.gateway.alerts = s.gateway.alerts := by rw [gateway]
      have apart : Call.isSecond .drain = false := rfl
      rw [apart] at some_second enough
      exact (ih later onward some_second (since ▸ enough)).cons taken

theorem told_fresh (d : Deployment) : ({ gateway := fresh p d {} } : Service).Told p := by
  refine ⟨rfl, List.nodup_nil, fun _ i n here => ?_⟩
  contradiction

theorem period_pos (valid : p.misconfiguration? = none) : 0 < p.reinforcementPeriod := by
  unfold Parameters.misconfiguration? at valid
  grind

/-- In service without a refusal, a node at an indicator was last told the indicator's level, unless
a change of placements is pending; and of so many seconds as the reinforcement period has, however
the other calls fall among them, one tells every indicator's node its level. -/
theorem indicators_told {d : Deployment} {g : Gateway} (built : build p d = .ok g)
    {calls : List Call} (ran : ({ gateway := g } : Service).run calls = some s) :
    (s.gateway.registry.changed = false →
      ∀ i n, s.gateway.registry.at? (AlertPanel.position p i) = some n →
        lastFor s.emitted n.node = some (.ofLevel n.node (s.gateway.alerts.output i))) ∧
    ∀ earlier window later, calls = earlier ++ window ++ later →
      window.countP Call.isSecond = p.reinforcementPeriod →
      ∃ pre post s₁ s₂ new, window = pre ++ .stimulus .second :: post ∧
        ({ gateway := g } : Service).run (earlier ++ pre) = some s₁ ∧
        s₁.take (.stimulus .second) = some s₂ ∧ s₂.emitted = s₁.emitted ++ new ∧
        ∀ i n, s₂.gateway.registry.at? (AlertPanel.position p i) = some n →
          .ofLevel n.node (s₂.gateway.alerts.output i) ∈ new := by
  obtain ⟨valid, cols, -, rfl⟩ := build_eq_ok built
  refine ⟨(told_run cols (told_fresh d) ran).told, ?_⟩
  rintro earlier window later rfl seconds
  rw [List.append_assoc, run_append] at ran
  obtain ⟨s₀, before, ran⟩ := Option.bind_eq_some_iff.1 ran
  rw [run_append] at ran
  obtain ⟨_, ran, -⟩ := Option.bind_eq_some_iff.1 ran
  have positive := period_pos valid
  obtain ⟨pre, post, s₁, s₂, new, split, upTo, informed⟩ :=
    informed_of_seconds cols (told_run cols (told_fresh d) before) ran (by omega) (by omega)
  refine ⟨pre, post, s₁, s₂, new, split, ?_, informed⟩
  rw [run_append, before]
  exact upTo

def lasting : List Call :=
  sighting.map .stimulus ++ [.drain] ++ List.replicate 9 (.stimulus .second)

/-- The node at the middle indicator was told of the alarm, and anew within the ten seconds. -/
theorem indicators_told_lasting :
    ∃ s, ({ gateway := fresh {} {} {} } : Service).run lasting = some s ∧
      lastFor s.emitted 1 = some (.ofLevel 1 .alarm) ∧
      ∃ pre s₁ s₂ new, ({ gateway := fresh {} {} {} } : Service).run pre = some s₁ ∧
        s₁.take (.stimulus .second) = some s₂ ∧ s₂.emitted = s₁.emitted ++ new ∧
        ∀ i n, s₂.gateway.registry.at? (AlertPanel.position {} i) = some n →
          .ofLevel n.node (s₂.gateway.alerts.output i) ∈ new := by
  have goes : (({ gateway := fresh {} {} {} } : Service).run lasting).map (fun s =>
      (s.gateway.registry.changed, s.gateway.registry.at? (AlertPanel.position {} 1),
        s.gateway.alerts.output 1)) =
      some (false, some ⟨1, ⟨0, 1⟩, .zero, 4, .pirPir⟩, .alarm) := by decide +kernel
  obtain ⟨s, ran, shows⟩ := Option.map_eq_some_iff.1 goes
  obtain ⟨settled, shows⟩ := Prod.mk.inj shows
  obtain ⟨here, alarm⟩ := Prod.mk.inj shows
  obtain ⟨told, informing⟩ := indicators_told build_default ran
  have last := told settled 1 _ here
  rw [alarm] at last
  obtain ⟨pre, -, s₁, s₂, new, -, before, second, informed⟩ :=
    informing [] lasting [] (by simp) (by decide)
  exact ⟨s, ran, last, pre, s₁, s₂, new, before, second, informed⟩

end Service

end WildlifeWarning
