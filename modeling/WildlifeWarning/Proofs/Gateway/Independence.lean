import WildlifeWarning.Proofs.Gateway.Effects

/-! The reporting never influences the alarms.
Apart from the air, a call that goes through does what a function of the model says, and that reads
nothing on air. So two runs that differ only in acknowledgments and page periods end in the same
model and hand over the same commands. -/

namespace WildlifeWarning

/-- Concerns the pages on air and nothing else. -/
def Stimulus.isReporting : Stimulus → Bool
  | .acknowledgement _ => true
  | .pagePeriod => true
  | _ => false

def Call.isReporting : Call → Bool
  | .stimulus s => s.isReporting
  | .drain => false

namespace Gateway

open Step

/-- The commands handed over each time that they were taken, and the gateway at the end; none if a
call was refused. -/
def handled (g : Gateway) : List Call → Option (List (List IndicatorCommand) × Gateway)
  | [] => some ([], g)
  | .stimulus s :: rest =>
    match (on s).after g with
    | (.ok (), next) => next.handled rest
    | (.error _, _) => none
  | .drain :: rest =>
    (g.drain.2.handled rest).map fun (taken, last) => (g.drain.1 :: taken, last)

/-- The gateway after a stimulus that goes through, apart from the air. -/
def successor (g : Gateway) : Stimulus → Gateway
  | .sensor event => g.synced.heard event
  | .placement p => g.stored p
  | .placementPage payload =>
    match Placement.ofPage payload with
    | .ok p => g.stored p
    | .error _ => g
  | .acknowledgement _ => g
  | .second => g.passed
  | .minute => g.minuteClosed
  | .hour => g
  | .day => g.dayClosed
  | .pagePeriod => g

variable (g : Gateway) (air : Airtime)

theorem ends_on_successor (s : Stimulus) :
    (on s).Ends g (fun _ t => ∃ air, t = { g.successor s with air }) fun _ _ => True := by
  cases s with
  | sensor event => exact (ends_sense g event).mono (fun _ _ h => h.2.1) fun _ _ _ => trivial
  | placement p =>
    exact (ends_place g p).mono (fun _ _ same => ⟨(g.stored p).air, same⟩) fun _ _ _ => trivial
  | placementPage payload =>
    change (placePage payload).Ends _ _ _
    cases readable : Placement.ofPage payload with
    | ok p =>
      simp only [placePage, successor, readable]
      exact (ends_place g p).mono (fun _ _ same => ⟨(g.stored p).air, same⟩) fun _ _ _ => trivial
    | error fault =>
      simp only [placePage, successor, readable]
      exact ⟨g.air, rfl⟩
  | acknowledgement a => exact (ends_onAir g _).mono (fun _ _ h => h) fun _ _ _ => trivial
  | second => exact (ends_passSecond g).mono (fun _ _ h => h) fun _ _ _ => trivial
  | minute => exact (ends_closeMinute g).mono (fun _ _ h => h) fun _ _ _ => trivial
  | hour => exact (ends_closeHour g).mono (fun _ _ h => h) fun _ _ _ => trivial
  | day => exact (ends_closeDay g).mono (fun _ _ h => h) fun _ _ _ => trivial
  | pagePeriod => exact ⟨_, rfl⟩

/-! None of these functions reads the air. -/

theorem stored_air (p : Placement) : { g with air }.stored p = { g.stored p with air } := by
  simp only [stored]
  split <;> rfl

theorem synced_air : { g with air }.synced = { g.synced with air } := by
  simp only [synced]
  split <;> rfl

theorem taken_air (event : SensorEvent) :
    { g with air }.taken event = { g.taken event with air } := by
  have sensed : ({ g with air }.sensed event).1 = (g.sensed event).1 := rfl
  simp only [taken, sensed]
  split
  · exact noted_air (g.detected event) event.key air
  · rfl

theorem heard_air (event : SensorEvent) :
    { g with air }.heard event = { g.heard event with air } := by
  have sensed : ({ g with air }.sensed event).1 = (g.sensed event).1 := rfl
  simp only [heard, sensed, taken_air]
  split <;> rfl

theorem turned_air : { g with air }.turned = { g.turned with air } := by
  simp only [turned, synced_air]
  rfl

theorem passed_air : { g with air }.passed = { g.passed with air } := by
  simp only [passed, turned_air]
  exact closed_air g.turned _ air

theorem successor_air (s : Stimulus) : { g with air }.successor s = { g.successor s with air } := by
  cases s with
  | sensor event =>
    simp only [successor, synced_air]
    exact heard_air g.synced air event
  | placement p => exact stored_air g air p
  | placementPage payload =>
    simp only [successor]
    split
    · exact stored_air g air _
    · rfl
  | acknowledgement a => rfl
  | second => exact passed_air g air
  | minute => rfl
  | hour => rfl
  | day => rfl
  | pagePeriod => rfl

def modelled (g : Gateway) : List Call → List (List IndicatorCommand) × Gateway
  | [] => ([], g)
  | .stimulus s :: rest => (g.successor s).modelled rest
  | .drain :: rest => (g.outbox :: ({ g with outbox := [] }.modelled rest).1,
      ({ g with outbox := [] }.modelled rest).2)

theorem modelled_air (calls : List Call) :
    { g with air }.modelled calls = ((g.modelled calls).1, { (g.modelled calls).2 with air }) := by
  induction calls generalizing g with
  | nil => rfl
  | cons c rest ih =>
    cases c with
    | stimulus s =>
      simp only [modelled, successor_air]
      exact ih (g.successor s)
    | drain =>
      simp only [modelled]
      rw [ih { g with outbox := [] }]

theorem successor_of_isReporting {s : Stimulus} (reporting : s.isReporting) :
    g.successor s = g := by
  cases s <;> first | rfl | contradiction

theorem modelled_filter (calls : List Call) :
    g.modelled (calls.filter fun c => !c.isReporting) = g.modelled calls := by
  induction calls generalizing g with
  | nil => rfl
  | cons c rest ih =>
    cases c with
    | drain =>
      rw [List.filter_cons_of_pos rfl]
      simp only [modelled, ih]
    | stimulus s =>
      by_cases reporting : s.isReporting
      · rw [List.filter_cons_of_neg (by simpa [Call.isReporting] using reporting), ih, modelled,
          successor_of_isReporting g reporting]
      · rw [List.filter_cons_of_pos (by simpa [Call.isReporting] using reporting), modelled,
          modelled, ih]

/-- A run without refusal hands over what the model says and ends in the model's state. -/
theorem handled_eq_modelled {calls : List Call} {taken : List (List IndicatorCommand)}
    {t : Gateway} (ran : g.handled calls = some (taken, t)) :
    taken = (g.modelled calls).1 ∧ ∃ air, t = { (g.modelled calls).2 with air } := by
  induction calls generalizing g taken with
  | nil =>
    obtain ⟨rfl, rfl⟩ := Prod.mk.inj (Option.some.inj ran)
    exact ⟨rfl, _, rfl⟩
  | cons c rest ih =>
    cases c with
    | stimulus s =>
      simp only [handled] at ran
      split at ran
      · next t' result =>
        obtain ⟨air, same⟩ := (ends_on_successor g s).of_ok (congrArg Prod.fst result)
        rw [result] at same
        obtain rfl : t' = _ := same
        have modelled := modelled_air (g.successor s) air rest
        obtain ⟨handed, air', last⟩ := ih _ ran
        rw [modelled] at handed last
        exact ⟨handed, air', last⟩
      · contradiction
    | drain =>
      obtain ⟨⟨later, last⟩, onward, same⟩ := Option.map_eq_some_iff.1 ran
      obtain ⟨rfl, rfl⟩ := Prod.mk.inj same
      obtain ⟨rfl, air, last⟩ := ih _ onward
      exact ⟨rfl, air, last⟩

/-- Two gateways that may differ on air are given the same calls, but for acknowledgments and page
periods, and refuse none. Then they hand over the same commands and differ at most on air. -/
theorem independent_of_reporting {g h t u : Gateway} {air : Airtime} (alike : h = { g with air })
    {first second : List Call} (same : (first.filter fun c => !c.isReporting) =
      second.filter fun c => !c.isReporting)
    {handed taken : List (List IndicatorCommand)} (ran : g.handled first = some (handed, t))
    (ran' : h.handled second = some (taken, u)) :
    taken = handed ∧ u = { t with air := u.air } := by
  obtain ⟨rfl, air₁, rfl⟩ := handled_eq_modelled g ran
  obtain ⟨rfl, air₂, rfl⟩ := handled_eq_modelled h ran'
  have modelled : h.modelled second =
      ((g.modelled first).1, { (g.modelled first).2 with air }) := by
    rw [alike, modelled_air, ← modelled_filter g first, same, modelled_filter]
  rw [modelled]
  exact ⟨rfl, rfl⟩

def confirmed : List Call :=
  [.stimulus watch, .stimulus (motion true), .stimulus .pagePeriod,
    .stimulus (.acknowledgement ⟨.motionSample, 0⟩), .stimulus .second, .drain]

def unconfirmed : List Call := sighting.map .stimulus ++ [.drain]

/-- The node is told of the alarm either way, and all else but the air is the same. -/
theorem independent_of_reporting_sighting :
    ∃ t u, (fresh {} {} {}).handled confirmed = some ([[.ofLevel 1 .idle, .ofLevel 1 .alarm]], t) ∧
      (fresh {} {} {}).handled unconfirmed = some ([[.ofLevel 1 .idle, .ofLevel 1 .alarm]], u) ∧
      t.air.samples ≠ u.air.samples ∧ u = { t with air := u.air } := by
  have first : ((fresh {} {} {}).handled confirmed).map (fun (handed, t) =>
      (handed, t.air.samples.front?.isSome)) =
        some ([[.ofLevel 1 .idle, .ofLevel 1 .alarm]], false) := by decide +kernel
  have second : ((fresh {} {} {}).handled unconfirmed).map (fun (handed, u) =>
      (handed, u.air.samples.front?.isSome)) =
        some ([[.ofLevel 1 .idle, .ofLevel 1 .alarm]], true) := by decide +kernel
  obtain ⟨⟨_, t⟩, ran, shown⟩ := Option.map_eq_some_iff.1 first
  obtain ⟨rfl, gone⟩ := Prod.mk.inj shown
  obtain ⟨⟨_, u⟩, ran', shown⟩ := Option.map_eq_some_iff.1 second
  obtain ⟨rfl, there⟩ := Prod.mk.inj shown
  have same : fresh {} {} {} = { fresh {} {} {} with air := (fresh {} {} {}).air } := rfl
  have alike := independent_of_reporting same (by decide +kernel) ran ran'
  refine ⟨t, u, ran, ran', fun same => ?_, alike.2⟩
  simp [same, there] at gone

end Gateway

end WildlifeWarning
