import WildlifeWarning.AlertPanel
import WildlifeWarning.Proofs.InTurn

/-! How long the indicators hold a level.
The dwell of a level other than idle counts the seconds since the call that entered it, however many
changes of placements lie between. -/

namespace WildlifeWarning

/-- A call of the panel. The field brings its own parameters, which decide how it is classified. -/
inductive PanelCall where
  | second (q : Parameters) (g : ActivityGrid) (r : Registry)
  | resync (q : Parameters) (g : ActivityGrid) (r : Registry)

namespace PanelCall

def isSecond : PanelCall → Bool
  | second .. => true
  | resync .. => false

def raw : PanelCall → IndicatorIndex → Level
  | second q g _, i | resync q g _, i => g.rawLevel q i

end PanelCall

namespace Indicator

variable (p : Parameters) (s : Indicator)

theorem tick_cases :
    (s.output < s.raw ∧ s.tick p = { s with output := s.raw, dwell := 0, dwelling := true }) ∨
    (s.raw ≤ s.output ∧
      s.tick p = { s with dwell := if s.dwelling then s.dwell + 1 else s.dwell }) ∨
    (s.raw < s.output ∧ (s.dwelling → floor p s.output ≤ s.dwell) ∧
      s.tick p =
        { s with
          output := s.output.lowered, dwell := 0, dwelling := s.output.lowered ≠ .idle }) := by
  unfold tick
  split
  · next low =>
    exact .inl ⟨low, by rw [rise, if_pos low]⟩
  · next high =>
    have le : s.raw ≤ s.output := Nat.not_lt.1 high
    split
    · next same =>
      refine .inr (.inl ⟨le, ?_⟩)
      split <;> rfl
    · next differ =>
      split
      · next held => exact .inr (.inl ⟨le, by rw [if_pos held.1]⟩)
      · next expired =>
        have ne : s.raw.severity ≠ s.output.severity := fun h => differ (by
          rw [← Level.ofSeverity_severity s.raw, h, Level.ofSeverity_severity])
        refine .inr (.inr ⟨Nat.lt_of_le_of_ne le ne, fun on => ?_, rfl⟩)
        exact Nat.not_lt.1 fun short => expired ⟨on, short⟩

theorem rise_cases :
    (s.output < s.raw ∧ s.rise = { s with output := s.raw, dwell := 0, dwelling := true }) ∨
    (s.raw ≤ s.output ∧ s.rise = s) := by
  unfold rise
  split
  · next low => exact .inl ⟨low, rfl⟩
  · next high => exact .inr ⟨Nat.not_lt.1 high, rfl⟩

def take (c : PanelCall) (i : IndicatorIndex) : Indicator :=
  let seen := { s with raw := c.raw i }
  if c.isSecond then seen.tick p else seen.rise

theorem take_cases (c : PanelCall) (i : IndicatorIndex) :
    (s.output < c.raw i ∧ s.take p c i = ⟨c.raw i, c.raw i, 0, true⟩) ∨
    (c.raw i ≤ s.output ∧ s.take p c i = ⟨c.raw i, s.output,
      if s.dwelling ∧ c.isSecond then s.dwell + 1 else s.dwell, s.dwelling⟩) ∨
    (c.isSecond ∧ c.raw i < s.output ∧ (s.dwelling → floor p s.output ≤ s.dwell) ∧
      s.take p c i = ⟨c.raw i, s.output.lowered, 0, s.output.lowered ≠ .idle⟩) := by
  unfold take
  by_cases second : c.isSecond
  · rcases tick_cases p { s with raw := c.raw i } with raised | held | lowered
    · exact .inl (by simpa [second] using raised)
    · exact .inr (.inl (by simpa [second] using held))
    · exact .inr (.inr (by simpa [second] using lowered))
  · rcases rise_cases { s with raw := c.raw i } with raised | held
    · exact .inl (by simpa [second] using raised)
    · exact .inr (.inl (by simpa [second] using held))

theorem raw_take (c : PanelCall) (i : IndicatorIndex) : (s.take p c i).raw = c.raw i := by
  rcases take_cases p s c i with ⟨-, taken⟩ | ⟨-, taken⟩ | ⟨-, -, -, taken⟩ <;> rw [taken]

theorem raw_le_output_take (c : PanelCall) (i : IndicatorIndex) :
    (s.take p c i).raw ≤ (s.take p c i).output := by
  unfold take
  split
  · exact raw_le_output_tick p _
  · exact raw_le_output_rise _

theorem lowered_of_take {c : PanelCall} {i : IndicatorIndex}
    (fall : (s.take p c i).output < s.output) :
    c.isSecond ∧ (s.take p c i).output.severity + 1 = s.output.severity ∧
      c.raw i < s.output ∧ (s.dwelling → floor p s.output ≤ s.dwell) := by
  rw [Level.lt_def] at fall
  rcases take_cases p s c i with ⟨low, taken⟩ | ⟨-, taken⟩ | ⟨second, high, expired, taken⟩
  · rw [taken] at fall
    exact absurd low (Nat.lt_asymm fall)
  · rw [taken] at fall
    exact absurd fall (Nat.lt_irrefl _)
  · refine ⟨second, ?_, high, expired⟩
    rw [Level.lt_def] at high
    rw [taken, Level.severity_lowered]
    omega

end Indicator

namespace AlertPanel

variable (p : Parameters) (a : AlertPanel)

def take : PanelCall → AlertPanel
  | .second q g r => ((a.observe q g).advance p r).1
  | .resync q g r => ((a.observe q g).rise p r).1

def after (calls : List PanelCall) : AlertPanel := inTurn (take p) a calls

theorem indicator_take (c : PanelCall) (i : IndicatorIndex) :
    (a.take p c).indicator i = (a.indicator i).take p c i := by
  cases c with
  | second q g r =>
    have same : (a.take p (.second q g r)).indicators =
        (a.observe q g).indicators.map (Indicator.tick p) := by
      simp only [take, advance]
      split <;> rfl
    have ticked : (a.take p (.second q g r)).indicator i =
        ((a.observe q g).indicator i).tick p := by
      simp [indicator, same]
    rw [ticked, indicator_observe]
    rfl
  | resync q g r =>
    have raised : (a.take p (.resync q g r)).indicator i =
        ((a.observe q g).indicator i).rise := by
      simp [indicator, take, rise]
    rw [raised, indicator_observe]
    rfl

theorem indicator_after_append (calls : List PanelCall) (c : PanelCall) (i : IndicatorIndex) :
    (a.after p (calls ++ [c])).indicator i = ((a.after p calls).indicator i).take p c i := by
  rw [after, inTurn_concat]
  exact indicator_take p (a.after p calls) c i

def shown (calls : List PanelCall) (i : IndicatorIndex) : Level :=
  (a.after p calls).output i

/-- An indicator came to its present level with the call before `held` and stayed there. -/
def Held (calls : List PanelCall) (i : IndicatorIndex) (held : List PanelCall) : Prop :=
  ∃ before entry, calls = before ++ entry :: held ∧ a.shown p before i ≠ a.shown p calls i ∧
    ∀ part, part <+: held → a.shown p (before ++ entry :: part) i = a.shown p calls i

variable {p a} {calls : List PanelCall} {i : IndicatorIndex}

theorem held_of_ne {c : PanelCall} (h : a.shown p (calls ++ [c]) i ≠ a.shown p calls i) :
    a.Held p (calls ++ [c]) i [] := by
  refine ⟨calls, c, rfl, h.symm, fun part nothing => ?_⟩
  rw [List.prefix_nil.1 nothing]

theorem Held.append {c : PanelCall} {held : List PanelCall} (h : a.Held p calls i held)
    (same : a.shown p (calls ++ [c]) i = a.shown p calls i) :
    a.Held p (calls ++ [c]) i (held ++ [c]) := by
  obtain ⟨before, entry, split, differ, stays⟩ := h
  refine ⟨before, entry, by simp [split], same ▸ differ, fun part initial => ?_⟩
  rcases List.prefix_concat_iff.1 initial with all | initial
  · rw [all, split]
    simp
  · rw [same, stays part initial]

/-- The dwell runs for every level but idle and counts the seconds that the level was held. -/
structure Timed (p : Parameters) (a : AlertPanel) (calls : List PanelCall) (i : IndicatorIndex) :
    Prop where
  dwelling : ((a.after p calls).indicator i).dwelling ↔ a.shown p calls i ≠ .idle
  dwell_le : ((a.after p calls).indicator i).dwell ≤ calls.length
  held : a.shown p calls i ≠ .idle → ∃ held, a.Held p calls i held ∧
    ((a.after p calls).indicator i).dwell = held.countP PanelCall.isSecond

theorem timed_nil : Timed p {} [] i := by
  have initial : (({} : AlertPanel).after p []).indicator i = {} := by
    simp [after, indicator]
  refine ⟨?_, ?_, ?_⟩ <;> simp [shown, output, initial]

theorem timed_of_ne {c : PanelCall} {raw output : Level}
    (now : (a.after p (calls ++ [c])).indicator i = ⟨raw, output, 0, output ≠ .idle⟩)
    (differ : output ≠ a.shown p calls i) : Timed p a (calls ++ [c]) i := by
  have shown : a.shown p (calls ++ [c]) i = output := congrArg Indicator.output now
  refine ⟨?_, ?_, fun _ => ⟨[], held_of_ne (shown ▸ differ), ?_⟩⟩
  · simp [now, shown]
  · simp [now]
  · simp [now]

theorem Timed.append {c : PanelCall} {raw : Level} {s : Indicator} (timed : Timed p a calls i)
    (before : (a.after p calls).indicator i = s)
    (now : (a.after p (calls ++ [c])).indicator i =
      ⟨raw, s.output, if s.dwelling ∧ c.isSecond then s.dwell + 1 else s.dwell, s.dwelling⟩) :
    Timed p a (calls ++ [c]) i := by
  obtain ⟨dwelling, dwell_le, held⟩ := timed
  rw [before] at dwelling dwell_le held
  have same : a.shown p (calls ++ [c]) i = a.shown p calls i :=
    (congrArg Indicator.output now).trans (congrArg Indicator.output before).symm
  refine ⟨?_, ?_, fun loud => ?_⟩
  · rw [now, same]
    exact dwelling
  · rw [now, List.length_append, List.length_singleton]
    dsimp only
    split <;> omega
  · rw [same] at loud
    obtain ⟨held, entered, dwell⟩ := held loud
    refine ⟨held ++ [c], entered.append same, ?_⟩
    rw [now, List.countP_append, List.countP_singleton]
    simp only [dwelling.2 loud, true_and]
    split <;> omega

theorem timed_append (c : PanelCall) (timed : Timed p a calls i) :
    Timed p a (calls ++ [c]) i := by
  have now := indicator_after_append p a calls c i
  rcases Indicator.take_cases p ((a.after p calls).indicator i) c i with
    ⟨low, taken⟩ | ⟨-, taken⟩ | ⟨-, high, -, taken⟩
  · have loud : c.raw i ≠ .idle := fun idle => absurd (idle ▸ low) (Nat.not_lt_zero _)
    have entered : (a.after p (calls ++ [c])).indicator i =
        ⟨c.raw i, c.raw i, 0, c.raw i ≠ .idle⟩ := by
      rw [now, taken]
      simp [loud]
    exact timed_of_ne entered fun same => Nat.lt_irrefl _ (same ▸ low)
  · exact timed.append rfl (now.trans taken)
  · refine timed_of_ne (now.trans taken) fun same => ?_
    have severity := Level.severity_lowered ((a.after p calls).indicator i).output
    rw [show _ = ((a.after p calls).indicator i).output from same] at severity
    rw [Level.lt_def] at high
    omega

theorem timed (calls : List PanelCall) (i : IndicatorIndex) : Timed p {} calls i := by
  induction calls using List.reverseRecOn with
  | nil => exact timed_nil
  | append_singleton calls c ih => exact timed_append c ih

theorem held_of_lowered {c : PanelCall} {s : Indicator}
    (before : (({} : AlertPanel).after p calls).indicator i = s)
    (fall : (s.take p c i).output < s.output) :
    ∃ held, ({} : AlertPanel).Held p calls i held ∧
      Indicator.floor p s.output ≤ held.countP PanelCall.isSecond := by
  subst before
  obtain ⟨-, severity, -, expired⟩ := Indicator.lowered_of_take p _ fall
  have loud : ((({} : AlertPanel).after p calls).indicator i).output ≠ .idle := fun idle => by
    rw [idle] at severity
    contradiction
  have timed := timed (p := p) calls i
  obtain ⟨held, entered, dwell⟩ := timed.held loud
  exact ⟨held, entered, dwell ▸ expired (timed.dwelling.2 loud)⟩

/-- What every call of a run does to every indicator: rises are followed at once and a fall only
within a second, by one level, after the level was held for its dwell. -/
theorem level_held_for_dwell {start : AlertPanel} (started : ofParameters p = .ok start)
    (calls : List PanelCall) (c : PanelCall) (i : IndicatorIndex)
    (short : (calls ++ [c]).length < UInt32.size) :
    let before := (start.after p calls).indicator i
    let now := (start.after p (calls ++ [c])).indicator i
    now.raw = c.raw i ∧ now.raw ≤ now.output ∧ (now.dwelling ↔ now.output ≠ .idle) ∧
    now.dwell < UInt32.size ∧ (¬c.isSecond → before.output ≤ now.output) ∧
    (now.output < before.output →
      now.output.severity + 1 = before.output.severity ∧ now.raw < before.output ∧
      ∃ held, start.Held p calls i held ∧
        Indicator.floor p before.output ≤ held.countP PanelCall.isSecond) := by
  have fresh : start = {} := by
    unfold ofParameters at started
    split at started
    · contradiction
    · exact (Except.ok.inj started).symm
  subst fresh
  intro before now
  have taken : now = before.take p c i := indicator_after_append p {} calls c i
  have after := timed (p := p) (calls ++ [c]) i
  refine ⟨?_, ?_, after.dwelling, Nat.lt_of_le_of_lt after.dwell_le short, fun resync => ?_,
    fun fall => ?_⟩
  · rw [taken, Indicator.raw_take]
  · rw [taken]
    exact Indicator.raw_le_output_take p before c i
  · refine Nat.not_lt.1 fun fall => resync ?_
    rw [taken] at fall
    exact (Indicator.lowered_of_take p before fall).1
  · rw [taken] at fall
    obtain ⟨-, severity, high, -⟩ := Indicator.lowered_of_take p before fall
    rw [taken, Indicator.raw_take]
    exact ⟨severity, high, held_of_lowered rfl fall⟩

def waning : List PanelCall :=
  [.second {} ⟨#[10, 1, 1, 1]⟩ ⟨9, [], false⟩, .resync {} (.atFloor {}) ⟨9, [], false⟩,
    .second {} (.atFloor {}) ⟨9, [], false⟩]

/-- With a dwell of one second the alarm falls to concern in the next second. -/
theorem level_held_for_dwell_waning :
    ofParameters { alarmDwell := 1 } = .ok {} ∧ waning.length + 1 < UInt32.size ∧
    ({} : AlertPanel).shown { alarmDwell := 1 } waning 0 = .alarm ∧
    ({} : AlertPanel).shown { alarmDwell := 1 }
      (waning ++ [.second {} (.atFloor {}) ⟨9, [], false⟩]) 0 = .concern ∧
    ∃ held, ({} : AlertPanel).Held { alarmDwell := 1 } waning 0 held ∧
      1 ≤ held.countP PanelCall.isSecond := by
  have started : ofParameters { alarmDwell := 1 } = .ok {} := rfl
  have alarm : ({} : AlertPanel).shown { alarmDwell := 1 } waning 0 = .alarm := by decide +kernel
  have concern : ({} : AlertPanel).shown { alarmDwell := 1 }
      (waning ++ [.second {} (.atFloor {}) ⟨9, [], false⟩]) 0 = .concern := by decide +kernel
  have falls := (level_held_for_dwell started waning (.second {} (.atFloor {}) ⟨9, [], false⟩) 0
    (by decide)).2.2.2.2.2
  obtain ⟨-, -, held, entered, expired⟩ := falls (by
    rw [shown, output] at alarm concern
    rw [alarm, concern]
    decide)
  rw [shown, output] at alarm
  rw [alarm] at expired
  exact ⟨started, by decide, alarm, concern, held, entered, expired⟩

end AlertPanel

end WildlifeWarning
