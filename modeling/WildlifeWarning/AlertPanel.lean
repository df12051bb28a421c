import WildlifeWarning.ActivityGrid
import WildlifeWarning.Registry

/-! From the activity field to the levels of the three roadside indicators.
Each cell contributes a level to each indicator by its class; the contributions add up, two concerns
to an alarm, and give the raw level. The output follows a rise of the raw level at once and a fall
one level at a time, after the output has been held for its dwell. -/

namespace WildlifeWarning

/-- One contribution more: severities add up, at most to an alarm. -/
def Level.plus (current contribution : Level) : Level :=
  if current = .concern ∧ contribution = .concern then .alarm
  else if current < contribution then contribution else current

theorem Level.severity_plus (a b : Level) :
    (a.plus b).severity = min (a.severity + b.severity) 2 := by
  cases a <;> cases b <;> rfl

/-- One of the three indicators on the roadside node row, left to right. -/
abbrev IndicatorIndex := Fin 3

def Cell.contribution (c : Cell) (class_ : Classification) : Vector Level 3 :=
  match c.col, c.row, class_ with
  | _, _, .idle => #v[.idle, .idle, .idle]
  | 0, 0, .possible => #v[.alarm, .concern, .idle]
  | 0, 0, .detected => #v[.alarm, .alarm, .concern]
  | 1, 0, .possible => #v[.alarm, .alarm, .concern]
  | 1, 0, .detected => #v[.alarm, .alarm, .alarm]
  | 0, _, .possible => #v[.concern, .idle, .idle]
  | 0, _, .detected => #v[.alarm, .concern, .idle]
  | _, _, .possible => #v[.alarm, .concern, .idle]
  | _, _, .detected => #v[.alarm, .alarm, .concern]

def ActivityGrid.rawLevel (p : Parameters) (g : ActivityGrid) (i : IndicatorIndex) : Level :=
  p.grid.cells.foldl (fun level c => level.plus (c.contribution (g.classify p c))[i]) .idle

structure Indicator where
  raw : Level := .idle
  output : Level := .idle
  /-- Seconds that the output has been held. -/
  dwell : Nat := 0
  dwelling : Bool := false
  deriving DecidableEq

namespace Indicator

def rise (s : Indicator) : Indicator :=
  if s.output < s.raw then { s with output := s.raw, dwell := 0, dwelling := true } else s

theorem raw_le_output_rise (s : Indicator) : s.rise.raw ≤ s.rise.output := by
  unfold rise
  split
  · exact Nat.le_refl _
  · next h => exact Nat.le_of_not_lt h

/-- Seconds that a level is held at least. -/
def floor (p : Parameters) : Level → Nat
  | .alarm => p.alarmDwell
  | .concern => p.concernDwell
  | .idle => 0

/-- One second: up at once, down one level when the output has been held long enough. -/
def tick (p : Parameters) (s : Indicator) : Indicator :=
  if s.output < s.raw then s.rise
  else if s.raw = s.output then
    if s.dwelling then { s with dwell := s.dwell + 1 } else s
  else if s.dwelling ∧ s.dwell < floor p s.output then { s with dwell := s.dwell + 1 }
  else
    let lowered := s.output.lowered
    { s with output := lowered, dwell := 0, dwelling := lowered ≠ .idle }

theorem raw_le_output_tick (p : Parameters) (s : Indicator) :
    (s.tick p).raw ≤ (s.tick p).output := by
  unfold tick
  split
  · exact raw_le_output_rise s
  · next high =>
    rw [Level.lt_def, Nat.not_lt] at high
    split
    · next same => split <;> exact Level.le_def.2 (same ▸ Nat.le_refl _)
    · next differ =>
      split
      · exact high
      · have : s.raw.severity ≠ s.output.severity := fun h => differ (by
          rw [← Level.ofSeverity_severity s.raw, h, Level.ofSeverity_severity])
        show s.raw.severity ≤ s.output.lowered.severity
        rw [Level.severity_lowered]
        omega

end Indicator

structure AlertPanel where
  indicators : Vector Indicator 3 := Vector.replicate 3 {}
  /-- Seconds since every indicator was last told its level. -/
  sinceReinforcement : Nat := 0
  deriving DecidableEq

namespace AlertPanel

/-- The contributions are laid out for two by two cells. -/
def ofParameters (p : Parameters) : Except Fault AlertPanel :=
  if p.grid.cols ≠ 2 ∨ p.grid.rows ≠ 2 then
    .error (.invalidConfiguration (.alertingCells p.grid.cols p.grid.rows))
  else .ok {}

def indicator (a : AlertPanel) (i : IndicatorIndex) : Indicator := a.indicators[i]

def output (a : AlertPanel) (i : IndicatorIndex) : Level := (a.indicator i).output

def output? (a : AlertPanel) (index : Nat) : Option Level :=
  if h : index < 3 then some (a.output ⟨index, h⟩) else none

def position (p : Parameters) (i : IndicatorIndex) : Position :=
  ⟨Int8.ofInt (i.val - p.grid.halfX), Int8.ofInt p.grid.halfY⟩

def command? (p : Parameters) (r : Registry) (a : AlertPanel) (i : IndicatorIndex) :
    Option IndicatorCommand :=
  (r.at? (position p i)).map fun node => .ofLevel node.node (a.output i)

def allIndicators : List IndicatorIndex := [0, 1, 2]

def observe (p : Parameters) (g : ActivityGrid) (a : AlertPanel) : AlertPanel :=
  { a with indicators := Vector.ofFn fun i => { a.indicator i with raw := g.rawLevel p i } }

@[simp] theorem indicator_observe (p : Parameters) (g : ActivityGrid) (a : AlertPanel)
    (i : IndicatorIndex) :
    (a.observe p g).indicator i = { a.indicator i with raw := g.rawLevel p i } := by
  rw [indicator, observe]
  simp

/-- One second under the raw levels now observed. The indicators whose output changed are told, and
all of them when the reinforcement period is over. -/
def advance (p : Parameters) (r : Registry) (seen : AlertPanel) :
    AlertPanel × List IndicatorCommand :=
  let indicators := seen.indicators.map (Indicator.tick p)
  let changed := allIndicators.filter fun i => indicators[i].output ≠ seen.indicators[i].output
  let elapsed := seen.sinceReinforcement + 1
  if max 1 p.reinforcementPeriod ≤ elapsed then
    let next : AlertPanel := ⟨indicators, 0⟩
    (next, allIndicators.filterMap (next.command? p r))
  else
    let next : AlertPanel := ⟨indicators, elapsed⟩
    (next, changed.filterMap (next.command? p r))

def rise (p : Parameters) (r : Registry) (seen : AlertPanel) :
    AlertPanel × List IndicatorCommand :=
  let next := { seen with indicators := seen.indicators.map Indicator.rise }
  (next, allIndicators.filterMap (next.command? p r))

def tick (p : Parameters) (g : ActivityGrid) (r : Registry) (a : AlertPanel) :
    AlertPanel × List IndicatorCommand := (a.observe p g).advance p r

/-- After a change of placements, no dwell runs. -/
def resync (p : Parameters) (g : ActivityGrid) (r : Registry) (a : AlertPanel) :
    AlertPanel × List IndicatorCommand := (a.observe p g).rise p r

end AlertPanel

end WildlifeWarning
