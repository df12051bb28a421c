import WildlifeWarning.Proofs.Gateway.Effects
import WildlifeWarning.Proofs.Gateway.Outbox
import WildlifeWarning.Scenario

/-! Replays of a scenario.
Time that a script lets pass in portions passes as if in one. The timeline is compared with a
gateway that hears the same and from which nobody takes the commands, as they are all in its
outbox. -/

namespace WildlifeWarning

open Gateway Step

namespace Replay

theorem seconds_add (m n : Nat) : seconds (m + n) = seconds m >>= fun _ => seconds n := by
  induction m with
  | zero => rw [Nat.zero_add, seconds, pure_bind]
  | succ m ih => rw [Nat.succ_add, seconds, seconds, ih, bind_assoc]

theorem acts_append (first rest : List Action) :
    acts (first ++ rest) = acts first >>= fun _ => acts rest := by
  induction first with
  | nil => rw [List.nil_append, acts, pure_bind]
  | cons action first ih => rw [List.cons_append, acts, acts, ih, bind_assoc]

theorem acts_portions (earlier later : List Action) (m n : Nat) :
    acts (earlier ++ .advance (m + n) :: later) =
      acts (earlier ++ .advance m :: .advance n :: later) := by
  simp only [acts_append, acts, act, seconds_add, bind_assoc]

theorem acts_nothing (earlier later : List Action) :
    acts (earlier ++ .advance 0 :: later) = acts (earlier ++ later) := by
  simp only [acts_append, acts, act, seconds, pure_bind]

end Replay

def Replay.secondStimuli (d : Deployment) : List Stimulus :=
  .second :: List.replicate (Replay.periodsPerSecond d) .pagePeriod

def Action.stimuli (d : Deployment) : Action → List Stimulus
  | .placement p => [.placement p]
  | .sensor event => [.sensor event]
  | .acknowledgement a => [.acknowledgement a]
  | .advance n => (List.replicate n (Replay.secondStimuli d)).flatten

def Scenario.stimuli (s : Scenario) (d : Deployment) : List Stimulus :=
  s.actions.flatMap (Action.stimuli d)

theorem Gateway.after_periods (n : Nat) (g : Gateway) :
    g.accepts (List.replicate n .pagePeriod) ∧
      g.after (List.replicate n .pagePeriod) = Replay.rotate n g := by
  induction n generalizing g with
  | zero => exact ⟨rfl, rfl⟩
  | succ n ih =>
    rw [List.replicate_succ, accepts_cons, after_cons]
    obtain ⟨through, rotated⟩ := ih g.airNext
    exact ⟨⟨rfl, through⟩, rotated⟩

namespace Replay

/-- The gateway `g` is that of the replay with all gathered commands still in front of its outbox,
and those were gathered one second after the other, none in the future. -/
structure Tracks (d : Deployment) (g : Gateway) (r : Replay) : Prop where
  kept : g = r.gateway.behind (r.timeline.toList.map TimedCommand.command)
  deployed : r.gateway.deployment = d
  ordered : r.timeline.toList.Pairwise fun t u => t.second ≤ u.second
  past : ∀ t ∈ r.timeline.toList, t.second ≤ r.now

variable {d : Deployment} {g : Gateway} {r : Replay}

theorem tracks_gather (tracks : Tracks d g r) : Tracks d g r.gather where
  kept := by
    rw [tracks.kept]
    simp [gather, drain, behind, Function.comp_def]
  deployed := tracks.deployed
  ordered := by
    simp only [gather, drain, Array.toList_append]
    apply List.pairwise_append.2 ⟨tracks.ordered, ?_, ?_⟩
    · exact List.pairwise_map.2 (List.pairwise_of_forall fun _ _ => Nat.le_refl _)
    · intro t old u new
      obtain ⟨c, -, rfl⟩ := List.mem_map.1 new
      exact tracks.past t old
  past := by
    intro t member
    simp only [gather, drain, Array.toList_append] at member
    rcases List.mem_append.1 member with old | new
    · exact tracks.past t old
    · obtain ⟨c, -, rfl⟩ := List.mem_map.1 new
      exact Nat.le_refl _

/-- If the step goes through, the gateway has accepted the stimuli and so many seconds have
passed. -/
def Plays (d : Deployment) (stimuli : List Stimulus) (n : Nat) (step : Step Replay Unit) : Prop :=
  ∀ g r, Tracks d g r → step.Ends r
    (fun _ t => g.accepts stimuli ∧ Tracks d (g.after stimuli) t ∧ t.now = r.now + n)
    fun _ _ => True

variable {xs ys : List Stimulus} {m n : Nat} {first rest : Step Replay Unit}

theorem Plays.bind (one : Plays d xs m first) (two : Plays d ys n rest) :
    Plays d (xs ++ ys) (m + n) (first >>= fun _ => rest) := by
  intro g r tracks
  refine (ends_bind _ _).2 ((one g r tracks).mono ?_ fun _ _ _ => trivial)
  rintro - t ⟨accepted, tracks, now⟩
  refine (two _ t tracks).mono ?_ fun _ _ _ => trivial
  rintro - u ⟨accepted', tracks, now'⟩
  rw [accepts_append, after_append, now', now, Nat.add_assoc]
  exact ⟨⟨accepted, accepted'⟩, tracks, rfl⟩

theorem plays_feed (s : Stimulus) : Plays d [s] 0 (feed s) := by
  intro g r tracks
  have same := (appends_on s).at tracks.kept
  refine (ends_within _ _ _).2 (ends_iff.2 ⟨fun u through => ?_, fun _ _ => trivial⟩)
  rw [accepts_cons, after_cons, same]
  refine ⟨⟨through, rfl⟩, ⟨rfl, ?_, tracks.ordered, tracks.past⟩, rfl⟩
  exact (deployment_on r.gateway s).trans tracks.deployed

theorem plays_second : Plays d (secondStimuli d) 1 second := by
  intro g r tracks
  have begun : Tracks d g { r with now := r.now + 1 } :=
    ⟨tracks.kept, tracks.deployed, tracks.ordered, fun t old =>
      Nat.le_succ_of_le (tracks.past t old)⟩
  simp only [second, ends_bind, ends_modify]
  refine (plays_feed .second g _ begun).mono ?_ fun _ _ _ => trivial
  rintro - t ⟨accepted, tracks, now⟩
  obtain ⟨through, rotated⟩ := (g.after [.second]).after_periods (periodsPerSecond d)
  have split : secondStimuli d = [.second] ++ List.replicate (periodsPerSecond d) .pagePeriod := rfl
  rw [split, accepts_append, after_append, rotated, tracks.deployed]
  refine ⟨⟨accepted, through⟩, tracks_gather ?_, now⟩
  exact ⟨congrArg (rotate (periodsPerSecond d)) tracks.kept, tracks.deployed, tracks.ordered,
    tracks.past⟩

theorem plays_seconds (n : Nat) :
    Plays d (List.replicate n (secondStimuli d)).flatten n (seconds n) := by
  induction n with
  | zero => exact fun g r tracks => ⟨rfl, tracks, rfl⟩
  | succ n ih =>
    have both := plays_second.bind ih
    rw [Nat.add_comm 1 n] at both
    exact both

theorem plays_act (action : Action) : Plays d (action.stimuli d) action.duration (act action) := by
  cases action with
  | placement p => exact plays_feed (.placement p)
  | sensor event => exact plays_feed (.sensor event)
  | acknowledgement a => exact plays_feed (.acknowledgement a)
  | advance n => exact plays_seconds n

theorem plays_acts (s : Scenario) : Plays d (s.stimuli d) s.duration (acts s.actions) := by
  obtain ⟨actions⟩ := s
  induction actions with
  | nil => exact fun g r tracks => ⟨rfl, tracks, rfl⟩
  | cons action rest ih => exact (plays_act action).bind ih

end Replay

namespace Scenario

/-- It makes no difference whether time passes in one portion or in two, or where none passes. A
replay without a fault gives the commands that were in the outbox and those of each stimulus, in
this order and each once. No stamp is before the one in front of it or past the end of the
script. -/
theorem timeline_of_replay (g : Gateway) :
    (∀ earlier later m n, replay ⟨earlier ++ .advance (m + n) :: later⟩ g =
      replay ⟨earlier ++ .advance m :: .advance n :: later⟩ g) ∧
    (∀ earlier later,
      replay ⟨earlier ++ .advance 0 :: later⟩ g = replay ⟨earlier ++ later⟩ g) ∧
    ∀ (s : Scenario) (timeline : List TimedCommand), (s.replay g).1 = .ok timeline →
      let heard := s.stimuli g.deployment
      g.accepts heard ∧
      timeline.map TimedCommand.command = g.outbox ++ g.given heard ∧
      (s.replay g).2 = { g.after heard with outbox := [] } ∧
      timeline.Pairwise (fun t u => t.second ≤ u.second) ∧
      ∀ t ∈ timeline, t.second ≤ s.duration := by
  refine ⟨fun earlier later m n => ?_, fun earlier later => ?_, ?_⟩
  · simp only [replay, Replay.acts_portions]
  · simp only [replay, Replay.acts_nothing]
  · intro s timeline result heard
    have start : Replay.Tracks g.deployment g { gateway := g } :=
      ⟨rfl, rfl, .nil, fun t none => nomatch none⟩
    have plays := Replay.plays_acts s g _ start
    unfold replay at result ⊢
    unfold Step.Ends at plays
    generalize (Replay.acts s.actions).after { gateway := g } = outcome at result plays ⊢
    obtain ⟨fault | u, r⟩ := outcome
    · contradiction
    · obtain ⟨accepted, tracks, now⟩ := plays
      obtain rfl := Except.ok.inj result
      have gathered := Replay.tracks_gather tracks
      have kept : g.after heard = _ := gathered.kept
      refine ⟨accepted, ?_, ?_, gathered.ordered, fun t member => ?_⟩
      · rw [← outbox_after, kept]
        simp [behind, Replay.gather, drain]
      · rw [kept]
        rfl
      · have past := gathered.past t member
        change r.now = 0 + s.duration at now
        change t.second ≤ r.now at past
        omega

/-- A node sees something, and two seconds later another one is placed, which the next reading takes
over when the last second is past. -/
def lateNeighbour : Scenario where
  actions := [.placement ⟨1, ⟨0, 1⟩, .zero, Facing.down.octant, .pirPir⟩,
    .sensor ⟨1, Facing.up.octant, .motion true⟩, .advance (1 + 1),
    .placement ⟨2, ⟨1, 1⟩, .zero, Facing.down.octant, .pirPir⟩,
    .sensor ⟨1, Facing.up.octant, .motion false⟩]

theorem timeline_of_replay_lateNeighbour :
    let g : Gateway := .fresh {} {} {}
    let timeline : List TimedCommand :=
      [⟨1, .ofLevel 1 .idle⟩, ⟨1, .ofLevel 1 .alarm⟩, ⟨2, .ofLevel 1 .alarm⟩,
        ⟨2, .ofLevel 2 .concern⟩]
    (lateNeighbour.replay g).1 = .ok timeline ∧
      timeline.map TimedCommand.command = g.outbox ++ g.given (lateNeighbour.stimuli {}) ∧
      (∀ t ∈ timeline, t.second ≤ lateNeighbour.duration) ∧ lateNeighbour.duration = 2 ∧
      lateNeighbour.replay g = replay ⟨lateNeighbour.actions.take 2 ++
        .advance 1 :: .advance 1 :: lateNeighbour.actions.drop 3⟩ g := by
  intro g timeline
  have result : (lateNeighbour.replay g).1 = .ok timeline := by decide +kernel
  obtain ⟨portions, -, replayed⟩ := timeline_of_replay g
  obtain ⟨-, commands, -, -, past⟩ := replayed lateNeighbour timeline result
  exact ⟨result, commands, past, rfl,
    portions (lateNeighbour.actions.take 2) (lateNeighbour.actions.drop 3) 1 1⟩

end Scenario

end WildlifeWarning
