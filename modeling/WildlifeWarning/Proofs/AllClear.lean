import WildlifeWarning.Proofs.AlertPanel

/-! How long the indicators take to go out once the field is quiet.
What is left of the present dwell and the dwells still to come add up to a countdown. A second of a
quiet field takes one off it, a change of placements nothing, and it alone says which level is
shown. -/

namespace WildlifeWarning

def PanelCall.isQuiet : PanelCall → Bool
  | second q g _ | resync q g _ => q.grid.cells.all fun c => g.classify q c = .idle

theorem Cell.contribution_idle (c : Cell) : c.contribution .idle = .replicate 3 .idle := rfl

theorem ActivityGrid.rawLevel_of_idle {q : Parameters} {g : ActivityGrid} (i : IndicatorIndex)
    (quiet : ∀ c ∈ q.grid.cells, g.classify q c = .idle) : g.rawLevel q i = .idle := by
  unfold rawLevel
  generalize q.grid.cells = cells at quiet
  induction cells with
  | nil => rfl
  | cons c rest ih =>
    have silent : (c.contribution (g.classify q c))[i] = .idle := by
      rw [quiet c List.mem_cons_self, c.contribution_idle]
      exact Vector.getElem_replicate i.isLt
    rw [List.foldl_cons, silent]
    exact ih fun d later => quiet d (List.mem_cons_of_mem _ later)

theorem PanelCall.raw_of_isQuiet {c : PanelCall} (quiet : c.isQuiet) (i : IndicatorIndex) :
    c.raw i = .idle := by
  cases c with
  | second q g r => exact g.rawLevel_of_idle i (by simpa [isQuiet] using quiet)
  | resync q g r => exact g.rawLevel_of_idle i (by simpa [isQuiet] using quiet)

namespace Indicator

variable {p : Parameters} {s : Indicator} {c : PanelCall} {i : IndicatorIndex}

/-- Seconds of a quiet field until the indicator shows idle. -/
def secondsLeft (p : Parameters) (s : Indicator) : Nat :=
  match s.output with
  | .idle => 0
  | .concern => p.concernDwell - s.dwell + 1
  | .alarm => p.alarmDwell - s.dwell + 1 + (p.concernDwell + 1)

def levelBefore (p : Parameters) (left : Nat) : Level :=
  if left = 0 then .idle
  else if left ≤ p.concernDwell + 1 then .concern
  else .alarm

theorem output_eq_levelBefore (p : Parameters) (s : Indicator) :
    s.output = levelBefore p (s.secondsLeft p) := by
  unfold levelBefore secondsLeft
  cases s.output <;> grind

theorem levelBefore_eq_idle_iff {left : Nat} : levelBefore p left = .idle ↔ left = 0 := by
  unfold levelBefore
  grind

/-- A level just entered has all of its dwell left and one second more, and then those of the levels
below it. -/
theorem levelBefore_of_entered (loud : s.output ≠ .idle) (entered : s.dwell = 0) (seconds : Nat) :
    (seconds ≤ floor p s.output →
      levelBefore p (s.secondsLeft p - seconds) = s.output) ∧
    (seconds = floor p s.output + 1 →
      levelBefore p (s.secondsLeft p - seconds) = s.output.lowered) := by
  unfold levelBefore secondsLeft
  cases shown : s.output <;> grind [floor, Level.lowered]

theorem secondsLeft_le (p : Parameters) (s : Indicator) :
    s.secondsLeft p ≤ p.alarmDwell + p.concernDwell + 2 := by
  unfold secondsLeft
  split <;> omega

theorem tick_of_quiet (quiet : s.raw = .idle) (loud : s.output ≠ .idle) (on : s.dwelling) :
    s.tick p = if s.dwell < floor p s.output then { s with dwell := s.dwell + 1 }
      else { s with
        output := s.output.lowered, dwell := 0, dwelling := s.output.lowered ≠ .idle } := by
  have high : ¬s.output < s.raw := quiet ▸ Nat.not_lt_zero _
  have differ : s.raw ≠ s.output := quiet ▸ Ne.symm loud
  simp only [tick, if_neg high, if_neg differ, on, true_and]

theorem take_of_quiet (quiet : c.isQuiet) (timed : s.dwelling ↔ s.output ≠ .idle) :
    s.take p c i = if c.isSecond ∧ s.output ≠ .idle then
        if s.dwell < floor p s.output then { s with raw := .idle, dwell := s.dwell + 1 }
        else ⟨.idle, s.output.lowered, 0, s.output.lowered ≠ .idle⟩
      else { s with raw := .idle } := by
  have silent : ¬s.output < Level.idle := Nat.not_lt_zero _
  unfold take
  rw [PanelCall.raw_of_isQuiet quiet i]
  by_cases second : c.isSecond
  · by_cases loud : s.output = .idle
    · have off : s.dwelling = false := by simpa [loud] using timed
      simp [second, loud, tick, off, Level.lt_def]
    · simp only [second, ne_eq, loud, not_false_eq_true, and_self, if_true]
      exact tick_of_quiet (s := { s with raw := .idle }) rfl loud (timed.2 loud)
  · simp [second, rise, silent]

theorem secondsLeft_take (quiet : c.isQuiet) (timed : s.dwelling ↔ s.output ≠ .idle) :
    (s.take p c i).secondsLeft p = s.secondsLeft p - if c.isSecond then 1 else 0 := by
  rw [take_of_quiet quiet timed]
  unfold secondsLeft
  cases shown : s.output <;> grind [floor, Level.lowered]

theorem dwell_take_le (quiet : c.isQuiet) (timed : s.dwelling ↔ s.output ≠ .idle) {most : Nat}
    (before : s.dwell ≤ most) (floors : ∀ l, floor p l ≤ most) :
    (s.take p c i).dwell ≤ most := by
  have := floors s.output
  rw [take_of_quiet quiet timed]
  grind

end Indicator

namespace AlertPanel

variable {p : Parameters} {calls quiet : List PanelCall} {i : IndicatorIndex}

theorem eq_of_ofParameters {start : AlertPanel} (started : ofParameters p = .ok start) :
    start = {} := by
  unfold ofParameters at started
  split at started
  · contradiction
  · exact (Except.ok.inj started).symm

theorem secondsLeft_after (silent : ∀ c ∈ quiet, c.isQuiet) :
    ((({} : AlertPanel).after p (calls ++ quiet)).indicator i).secondsLeft p =
      ((({} : AlertPanel).after p calls).indicator i).secondsLeft p -
        quiet.countP PanelCall.isSecond := by
  induction quiet using List.reverseRecOn with
  | nil => simp
  | append_singleton quiet c ih =>
    have earlier := ih fun d member => silent d (List.mem_append_left _ member)
    rw [← List.append_assoc, indicator_after_append,
      Indicator.secondsLeft_take (silent c (by simp)) (timed (calls ++ quiet) i).dwelling, earlier,
      List.countP_append, List.countP_singleton, Nat.sub_sub]

theorem shown_after_quiet (silent : ∀ c ∈ quiet, c.isQuiet) :
    ({} : AlertPanel).shown p (calls ++ quiet) i = Indicator.levelBefore p
      (((({} : AlertPanel).after p calls).indicator i).secondsLeft p -
        quiet.countP PanelCall.isSecond) := by
  rw [← secondsLeft_after silent]
  exact Indicator.output_eq_levelBefore p _

theorem dwell_after_le (silent : ∀ c ∈ quiet, c.isQuiet) {most : Nat}
    (before : ((({} : AlertPanel).after p calls).indicator i).dwell ≤ most)
    (floors : ∀ l, Indicator.floor p l ≤ most) :
    ((({} : AlertPanel).after p (calls ++ quiet)).indicator i).dwell ≤ most := by
  induction quiet using List.reverseRecOn with
  | nil => simpa using before
  | append_singleton quiet c ih =>
    have earlier := ih fun d member => silent d (List.mem_append_left _ member)
    rw [← List.append_assoc, indicator_after_append]
    exact Indicator.dwell_take_le (silent c (by simp)) (timed (calls ++ quiet) i).dwelling earlier
      floors

/-- From any state of the panel on, while every field that it sees is quiet: an indicator shows idle
once both dwells and two seconds more have passed, if not before, and shows it for good; a level
just entered is held for its dwell and left in the next second; and no dwell outgrows its
counter. -/
theorem goes_out_when_quiet {start : AlertPanel} (started : ofParameters p = .ok start)
    (calls quiet : List PanelCall) (i : IndicatorIndex) (short : calls.length < UInt32.size - 1)
    (silent : ∀ c ∈ quiet, c.isQuiet) :
    let before := (start.after p calls).indicator i
    let now := (start.after p (calls ++ quiet)).indicator i
    let seconds := quiet.countP PanelCall.isSecond
    (p.alarmDwell + p.concernDwell + 2 ≤ seconds → now.output = .idle) ∧
    (∀ first rest, quiet = first ++ rest → start.shown p (calls ++ first) i = .idle →
      now.output = .idle) ∧
    (before.output ≠ .idle → before.dwell = 0 →
      (seconds ≤ Indicator.floor p before.output → now.output = before.output) ∧
      (seconds = Indicator.floor p before.output + 1 → now.output = before.output.lowered)) ∧
    ((∀ l, Indicator.floor p l < UInt32.size) → now.dwell < UInt32.size) := by
  obtain rfl := eq_of_ofParameters started
  intro before now seconds
  have shows : now.output = Indicator.levelBefore p (before.secondsLeft p - seconds) :=
    shown_after_quiet silent
  refine ⟨fun enough => ?_, ?_, fun loud entered => ?_, fun floors => ?_⟩
  · have most := before.secondsLeft_le p
    exact shows.trans (Indicator.levelBefore_eq_idle_iff.2 (by omega))
  · rintro first rest rfl idle
    have expired : (before.secondsLeft p - first.countP PanelCall.isSecond) = 0 := by
      rw [shown_after_quiet fun c member => silent c (List.mem_append_left _ member)] at idle
      exact Indicator.levelBefore_eq_idle_iff.1 idle
    rw [shows, Indicator.levelBefore_eq_idle_iff]
    simp only [seconds, List.countP_append]
    omega
  · rw [shows]
    exact Indicator.levelBefore_of_entered loud entered seconds
  · have served := (timed (p := p) calls i).dwell_le
    have most : now.dwell ≤ UInt32.size - 1 :=
      dwell_after_le silent (by omega) fun l => Nat.le_sub_one_of_lt (floors l)
    exact Nat.lt_of_le_sub_one (by decide) most

def briefly : Parameters := { alarmDwell := 2, concernDwell := 1 }

def sighted : List PanelCall := [.second {} ⟨#[10, 1, 1, 1]⟩ ⟨9, [], false⟩]

def calm (seconds : Nat) : List PanelCall :=
  .resync {} (.atFloor {}) ⟨9, [], false⟩ ::
    List.replicate seconds (.second {} (.atFloor {}) ⟨9, [], false⟩)

/-- With dwells of two seconds and one, the alarm stands for two seconds and the indicator is out
after five. -/
theorem goes_out_when_quiet_sighted :
    ofParameters briefly = .ok {} ∧ sighted.length < UInt32.size - 1 ∧
    (∀ seconds ∈ [2, 3, 5], ∀ c ∈ calm seconds, c.isQuiet) ∧
    (({} : AlertPanel).after briefly sighted).indicator 0 = ⟨.alarm, .alarm, 0, true⟩ ∧
    ({} : AlertPanel).shown briefly (sighted ++ calm 2) 0 = .alarm ∧
    ({} : AlertPanel).shown briefly (sighted ++ calm 3) 0 = .concern ∧
    ({} : AlertPanel).shown briefly (sighted ++ calm 5) 0 = .idle := by
  have started : ofParameters briefly = .ok {} := rfl
  have short : sighted.length < UInt32.size - 1 := by decide
  have silent : ∀ seconds ∈ [2, 3, 5], ∀ c ∈ calm seconds, c.isQuiet := by decide +kernel
  have alarm : (({} : AlertPanel).after briefly sighted).indicator 0 =
      ⟨.alarm, .alarm, 0, true⟩ := by decide +kernel
  have quiet (seconds : Nat) (member : seconds ∈ [2, 3, 5]) :=
    goes_out_when_quiet started sighted (calm seconds) 0 short (silent seconds member)
  simp only [alarm] at quiet
  refine ⟨started, short, silent, alarm, ?_, ?_, ?_⟩
  · exact ((quiet 2 (by decide)).2.2.1 (by decide) trivial).1 (by decide)
  · exact ((quiet 3 (by decide)).2.2.1 (by decide) trivial).2 (by decide)
  · exact (quiet 5 (by decide)).1 (by decide)

end AlertPanel

end WildlifeWarning
