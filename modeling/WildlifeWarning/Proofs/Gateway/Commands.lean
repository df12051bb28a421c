import WildlifeWarning.Proofs.Gateway.Effects
import WildlifeWarning.Proofs.Gateway.Run
import WildlifeWarning.Proofs.Registry

/-! Which level a roadside node was last told.
A command is for the node that stands at an indicator. No two indicators stand at one place and no
two placements are of one node, so the last command for a node is that of its indicator. -/

namespace WildlifeWarning

def lastFor (commands : List IndicatorCommand) (node : NodeId) : Option IndicatorCommand :=
  commands.reverse.find? fun c => c.node == node

theorem lastFor_append (first rest : List IndicatorCommand) (node : NodeId) :
    lastFor (first ++ rest) node = (lastFor rest node).or (lastFor first node) := by
  rw [lastFor, List.reverse_append, List.find?_append]
  rfl

theorem lastFor_eq_none {commands : List IndicatorCommand} {node : NodeId}
    (h : ∀ c ∈ commands, c.node ≠ node) : lastFor commands node = none := by
  refine List.find?_eq_none.2 fun c member => ?_
  simpa using h c (List.mem_reverse.1 member)

theorem lastFor_eq_some {commands : List IndicatorCommand} {c : IndicatorCommand}
    (member : c ∈ commands) (only : ∀ d ∈ commands, d.node = c.node → d = c) :
    lastFor commands c.node = some c := by
  cases found : lastFor commands c.node with
  | none =>
    have other := List.find?_eq_none.1 found c (List.mem_reverse.2 member)
    simp at other
  | some d =>
    have same : d.node = c.node := by simpa using List.find?_some found
    rw [only d (List.mem_reverse.1 (List.mem_of_find?_eq_some found)) same]

namespace AlertPanel

variable {p : Parameters} {r : Registry} {a : AlertPanel} {i j : IndicatorIndex} {n : Placement}

theorem position_inj (cols : p.grid.cols = 2) (h : position p i = position p j) : i = j := by
  have three : p.grid.nodesX.toNat = 3 := by
    simp only [Layout.cols] at cols
    omega
  have half : p.grid.halfX = 1 := by simp [Layout.halfX, three]
  have same : Int8.ofInt (i.val - 1) = Int8.ofInt (j.val - 1) := by
    simpa [position, half] using congrArg Position.x h
  clear h
  revert i j
  decide

theorem command?_of_at? (here : r.at? (position p i) = some n) :
    a.command? p r i = some (.ofLevel n.node (a.output i)) := by
  simp [command?, here]

theorem eq_of_command? (distinct : r.Distinct) (cols : p.grid.cols = 2)
    (here : r.at? (position p i) = some n) {c : IndicatorCommand}
    (told : a.command? p r j = some c) (same : c.node = n.node) :
    j = i ∧ c = .ofLevel n.node (a.output i) := by
  obtain ⟨m, there, rfl⟩ := Option.map_eq_some_iff.1 told
  rw [IndicatorCommand.node_ofLevel] at same
  obtain rfl := distinct.eq_of_at? there here same
  have positions : position p j = position p i := by
    rw [← Registry.position_of_at? there, ← Registry.position_of_at? here]
  obtain rfl := position_inj cols positions
  exact ⟨rfl, rfl⟩

theorem lastFor_of_mem (distinct : r.Distinct) (cols : p.grid.cols = 2)
    (here : r.at? (position p i) = some n) {told : List IndicatorIndex} (among : i ∈ told) :
    lastFor (told.filterMap (a.command? p r)) n.node = some (.ofLevel n.node (a.output i)) := by
  have member : .ofLevel n.node (a.output i) ∈ told.filterMap (a.command? p r) :=
    List.mem_filterMap.2 ⟨i, among, command?_of_at? here⟩
  have last := lastFor_eq_some member fun d other same => by
    obtain ⟨j, _, told⟩ := List.mem_filterMap.1 other
    exact (eq_of_command? distinct cols here told (by simpa using same)).2
  simpa using last

theorem lastFor_of_not_mem (distinct : r.Distinct) (cols : p.grid.cols = 2)
    (here : r.at? (position p i) = some n) {told : List IndicatorIndex} (apart : i ∉ told) :
    lastFor (told.filterMap (a.command? p r)) n.node = none := by
  refine lastFor_eq_none fun c member same => ?_
  obtain ⟨j, among, told⟩ := List.mem_filterMap.1 member
  exact apart ((eq_of_command? distinct cols here told same).1 ▸ among)

end AlertPanel

namespace Gateway

open Step AlertPanel

/-- Where no change of placements is pending, the last command for the node at an indicator carries
the output, counting the commands already handed over. -/
structure Told (p : Parameters) (drained : List IndicatorCommand) (g : Gateway) : Prop where
  parameters : g.parameters = p
  distinct : g.registry.Distinct
  told : g.registry.changed = false → ∀ i n, g.registry.at? (position p i) = some n →
    lastFor (drained ++ g.outbox) n.node = some (.ofLevel n.node (g.alerts.output i))

variable {p : Parameters} {drained : List IndicatorCommand} {g t : Gateway}

theorem Told.congr (told : Told p drained g) (parameters : t.parameters = g.parameters)
    (registry : t.registry = g.registry) (alerts : t.alerts = g.alerts)
    (outbox : t.outbox = g.outbox) : Told p drained t := by
  refine ⟨parameters.trans told.parameters, registry ▸ told.distinct, fun settled i n here => ?_⟩
  rw [registry] at settled here
  rw [alerts, outbox]
  exact told.told settled i n here

theorem told_of_commands (is : List IndicatorIndex) (told : Told p drained g)
    (cols : p.grid.cols = 2) (parameters : t.parameters = p)
    (nodes : t.registry.nodes = g.registry.nodes)
    (outbox : t.outbox = g.outbox ++ is.filterMap (t.alerts.command? p t.registry))
    (others : ∀ i, i ∉ is → g.registry.changed = false ∧
      t.alerts.output i = g.alerts.output i) : Told p drained t := by
  have distinct : t.registry.Distinct := by
    rw [Registry.Distinct, nodes]
    exact told.distinct
  refine ⟨parameters, distinct, fun _ i n here => ?_⟩
  rw [outbox, ← List.append_assoc, lastFor_append]
  by_cases among : i ∈ is
  · rw [lastFor_of_mem distinct cols here among, Option.some_or]
  · obtain ⟨settled, same⟩ := others i among
    have there : g.registry.at? (position p i) = some n := by
      rw [← here, Registry.at?, Registry.at?, nodes]
    rw [lastFor_of_not_mem distinct cols here among, Option.none_or, same]
    exact told.told settled i n there

theorem mem_allIndicators (i : IndicatorIndex) : i ∈ allIndicators := by
  revert i
  decide

theorem told_synced (cols : p.grid.cols = 2) (told : Told p drained g) :
    Told p drained g.synced ∧ g.synced.registry.changed = false := by
  obtain rfl := told.parameters
  unfold synced
  split
  · exact ⟨told_of_commands allIndicators told cols rfl rfl rfl fun i apart =>
      absurd (mem_allIndicators i) apart, rfl⟩
  · next settled => exact ⟨told, by simpa using settled⟩

theorem advanced_cases (g : Gateway) :
    ∃ is, g.advanced.outbox =
        g.outbox ++ is.filterMap (g.advanced.alerts.command? g.parameters g.registry) ∧
      (∀ i, i ∉ is → g.advanced.alerts.output i = g.alerts.output i) ∧
      ((is = allIndicators ∧ g.advanced.alerts.sinceReinforcement = 0) ∨
        g.advanced.alerts.sinceReinforcement = g.alerts.sinceReinforcement + 1 ∧
        g.alerts.sinceReinforcement + 1 < max 1 g.parameters.reinforcementPeriod) := by
  have unseen : ∀ i, (g.alerts.observe g.parameters g.aged).output i = g.alerts.output i := by
    intro i
    rw [output, indicator_observe, output]
  simp only [advanced, tick, AlertPanel.advance]
  split
  · refine ⟨allIndicators, rfl, fun i apart => absurd (mem_allIndicators i) apart, .inl ⟨rfl, rfl⟩⟩
  · next short =>
    refine ⟨_, rfl, fun i apart => ?_, .inr ⟨rfl, Nat.not_le.1 short⟩⟩
    rw [← unseen i]
    simpa [mem_allIndicators, output, indicator] using apart

theorem told_advanced (cols : p.grid.cols = 2) (told : Told p drained g)
    (settled : g.registry.changed = false) : Told p drained g.advanced := by
  obtain rfl := told.parameters
  obtain ⟨is, outbox, others, -⟩ := advanced_cases g
  exact told_of_commands is told cols rfl rfl outbox fun i apart => ⟨settled, others i apart⟩

theorem told_of_effect (cols : p.grid.cols = 2) {s : Stimulus} (told : Told p drained g)
    (effect : Effect g true s t) : Told p drained t := by
  cases effect with
  | quiet => exact told.congr rfl rfl rfl rfl
  | placed placement asked accepted =>
    refine ⟨told.parameters, Registry.distinct_accept told.distinct accepted, fun settled => ?_⟩
    rw [Registry.accept_eq_ok accepted] at settled
    contradiction
  | stopped alerts outbox air refused => contradiction
  | sensed event echoed air =>
    obtain ⟨health, -, taken⟩ := taken_eq g.synced event
    rw [taken]
    exact (told_synced cols told).1.congr rfl rfl rfl rfl
  | second clock minute health outbox echoed air same all =>
    obtain ⟨told, settled⟩ := told_synced cols told
    exact (told_advanced cols told settled).congr rfl rfl rfl (all rfl)

theorem sinceReinforcement_synced (g : Gateway) :
    g.synced.alerts.sinceReinforcement = g.alerts.sinceReinforcement := by
  unfold synced
  split <;> rfl

theorem outbox_synced (g : Gateway) : ∃ commands, g.synced.outbox = g.outbox ++ commands := by
  unfold synced
  split
  · exact ⟨_, rfl⟩
  · exact ⟨[], by simp⟩

theorem parameters_synced (g : Gateway) : g.synced.parameters = g.parameters := by
  unfold synced
  split <;> rfl

def Informs (p : Parameters) (g : Gateway) (commands : List IndicatorCommand) : Prop :=
  ∀ i n, g.registry.at? (position p i) = some n →
    IndicatorCommand.ofLevel n.node (g.alerts.output i) ∈ commands

theorem paced_of_effect {s : Stimulus} (effect : Effect g true s t) :
    (s ≠ .second ∧ t.alerts.sinceReinforcement = g.alerts.sinceReinforcement) ∨
    (s = .second ∧ ((∃ new, t.outbox = g.outbox ++ new ∧ Informs g.parameters t new) ∨
      t.alerts.sinceReinforcement = g.alerts.sinceReinforcement + 1 ∧
      g.alerts.sinceReinforcement + 1 < max 1 g.parameters.reinforcementPeriod)) := by
  cases effect with
  | quiet health minute air same no_event no_second => exact .inl ⟨no_second, rfl⟩
  | placed placement asked =>
    refine .inl ⟨?_, rfl⟩
    rintro rfl
    contradiction
  | stopped alerts outbox air refused => contradiction
  | sensed event echoed air =>
    obtain ⟨health, -, taken⟩ := taken_eq g.synced event
    rw [taken]
    exact .inl ⟨by simp, sinceReinforcement_synced g⟩
  | second clock minute health outbox echoed air same all =>
    obtain rfl := all rfl
    refine .inr ⟨rfl, ?_⟩
    obtain ⟨commands, synced⟩ := outbox_synced g
    obtain ⟨is, outbox, -, ⟨rfl, -⟩ | paced⟩ := advanced_cases g.synced
    · rw [parameters_synced, synced, List.append_assoc] at outbox
      refine .inl ⟨_, outbox, fun i n here => List.mem_append_right _ ?_⟩
      exact List.mem_filterMap.2 ⟨i, mem_allIndicators i, command?_of_at? here⟩
    · rw [sinceReinforcement_synced, parameters_synced] at paced
      exact .inr paced

end Gateway

end WildlifeWarning
