import WildlifeWarning.Proofs.HealthHistory

/-! When a mount counts as silent, told by the evaluations since its last report.
A day that a report came in goes unflagged, so a mount that ever reported is flagged by the second
evaluation behind its last report, and one that never did by the first of all. -/

namespace WildlifeWarning.SensorHealth

variable {p : Parameters} {h : SensorHealth} {r : Registry} {m : Mount}
  {history : List Occasion}

namespace Occasion

def isReportOf (m : Mount) : Occasion → Bool
  | event key _ => key.mount == m
  | minute | day _ | placements _ => false

def isDay : Occasion → Bool
  | day _ => true
  | event .. | minute | placements _ => false

def Reads (r : Registry) : Occasion → Prop
  | event .. | minute => True
  | day s | placements s => s = r

end Occasion

def HasReported (m : Mount) (history : List Occasion) : Prop :=
  ∃ o ∈ history, o.isReportOf m = true

instance : Decidable (HasReported m history) :=
  inferInstanceAs (Decidable (∃ o ∈ history, o.isReportOf m = true))

/-- The daily evaluations since the mount's last report, or all if it never reported. -/
def daysSilent (m : Mount) (history : List Occasion) : Nat :=
  (sinceLast (Occasion.isReportOf m) history).countP Occasion.isDay

theorem hasReported_concat (occasion : Occasion) :
    HasReported m (history ++ [occasion]) ↔
      HasReported m history ∨ occasion.isReportOf m = true := by
  simp [HasReported, or_and_right, exists_or]

theorem daysSilent_concat (occasion : Occasion) :
    daysSilent m (history ++ [occasion]) =
      if occasion.isReportOf m then 0
      else daysSilent m history + occasion.isDay.toNat := by
  rw [daysSilent, sinceLast_concat]
  cases occasion.isReportOf m with
  | true => rfl
  | false => cases day : occasion.isDay <;> simp [daysSilent, day]

theorem mem_mounts_newlySilent (seen : List Mount) (silent sensors : List SensorKey) :
    m ∈ (newlySilent seen silent sensors).map SensorKey.mount ↔
      m ∈ sensors.map SensorKey.mount ∧ m ∉ seen ∧ m ∉ silent.map SensorKey.mount := by
  fun_induction newlySilent seen silent sensors with
  | case1 => simp
  | case2 silent key rest known ih =>
    rw [ih, List.map_cons, List.mem_cons]
    grind
  | case3 silent key rest unheard ih =>
    rw [List.map_cons, List.mem_cons, ih, List.map_cons, List.map_cons, List.mem_cons,
      List.mem_cons]
    grind

/-- The mount has been heard of since the last evaluation, or is flagged, as its history says. -/
structure Attends (m : Mount) (history : List Occasion) (h : SensorHealth) : Prop where
  seen : m ∈ h.seen ↔ HasReported m history ∧ daysSilent m history = 0
  silent : m ∈ h.silent.map SensorKey.mount ↔
    (¬HasReported m history ∧ 1 ≤ daysSilent m history) ∨
      (HasReported m history ∧ 2 ≤ daysSilent m history)

theorem mem_mounts_evaluateInactivity :
    m ∈ (h.evaluateInactivity r).2.silent.map SensorKey.mount ↔
      m ∈ h.silent.map SensorKey.mount ∨ m ∈ r.sensors.map SensorKey.mount ∧ m ∉ h.seen := by
  simp only [evaluateInactivity]
  rw [((perm_insertAll _ _).map SensorKey.mount).mem_iff, List.map_append, List.mem_append,
    mem_mounts_newlySilent]
  tauto

theorem attention_record {key : SensorKey} {minute : UInt32} {cleared : Option HealthChange}
    {next : SensorHealth} (recorded : h.record p key minute = .ok (cleared, next)) :
    (m ∈ next.seen ↔ m = key.mount ∨ m ∈ h.seen) ∧
      (m ∈ next.silent.map SensorKey.mount ↔
        m ∈ h.silent.map SensorKey.mount ∧ m ≠ key.mount) := by
  unfold record at recorded
  split at recorded
  · contradiction
  · obtain ⟨-, rfl⟩ := Prod.mk.inj (Except.ok.inj recorded)
    constructor
    · simp [List.mem_insert_iff]
    · simp only [List.mem_map, List.mem_filter, decide_eq_true_eq]
      grind

theorem attention_sync (carried : m ∈ r.sensors.map SensorKey.mount) :
    (m ∈ (h.sync r).2.seen ↔ m ∈ h.seen) ∧
      (m ∈ (h.sync r).2.silent.map SensorKey.mount ↔ m ∈ h.silent.map SensorKey.mount) := by
  simp only [sync, List.mem_filter, decide_eq_true_eq, carried, and_true, true_and]
  simp only [List.mem_map, List.mem_filter, decide_eq_true_eq]
  constructor
  · rintro ⟨k, ⟨silent, -⟩, rfl⟩
    exact ⟨k, silent, rfl⟩
  · rintro ⟨k, silent, rfl⟩
    exact ⟨k, ⟨silent, List.mem_map.1 carried⟩, rfl⟩

theorem Attends.still {occasion : Occasion} {next : SensorHealth} (attends : Attends m history h)
    (quiet : occasion.isReportOf m = false) (within : occasion.isDay = false)
    (seen : m ∈ next.seen ↔ m ∈ h.seen)
    (silent : m ∈ next.silent.map SensorKey.mount ↔ m ∈ h.silent.map SensorKey.mount) :
    Attends m (history ++ [occasion]) next := by
  have reported : HasReported m (history ++ [occasion]) ↔ HasReported m history := by
    simp [hasReported_concat, quiet]
  have days : daysSilent m (history ++ [occasion]) = daysSilent m history := by
    simp [daysSilent_concat, quiet, within]
  constructor
  · rw [seen, reported, days]
    exact attends.seen
  · rw [silent, reported, days]
    exact attends.silent

theorem Attends.heeds {occasion : Occasion} {next : SensorHealth}
    (attends : Attends m history h) (carried : m ∈ r.sensors.map SensorKey.mount)
    (reads : occasion.Reads r) (heeds : Heeds p h occasion next) :
    Attends m (history ++ [occasion]) next := by
  cases heeds with
  | @event key minute _ _ recorded =>
    obtain ⟨heard, flagged⟩ := attention_record (m := m) recorded
    by_cases own : key.mount = m
    · have report : (Occasion.event key minute).isReportOf m = true := by
        simp [Occasion.isReportOf, own]
      have none : daysSilent m (history ++ [.event key minute]) = 0 := by
        rw [daysSilent_concat, if_pos report]
      constructor
      · simp [heard, own, none, hasReported_concat, report]
      · simp [flagged, own, none]
    · have other : m ≠ key.mount := Ne.symm own
      exact attends.still (by simpa [Occasion.isReportOf] using own) rfl (by simp [heard, other])
        (by rw [flagged, and_iff_left other])
  | minute => exact attends.still rfl rfl Iff.rfl Iff.rfl
  | day s =>
    obtain rfl : s = r := reads
    have reported : HasReported m (history ++ [.day s]) ↔ HasReported m history := by
      simp [hasReported_concat, Occasion.isReportOf]
    have days : daysSilent m (history ++ [.day s]) = daysSilent m history + 1 := by
      simp [daysSilent_concat, Occasion.isReportOf, Occasion.isDay]
    constructor
    · simp [evaluateInactivity, days]
    · rw [mem_mounts_evaluateInactivity, and_iff_right carried, attends.silent, attends.seen,
        reported, days]
      by_cases ever : HasReported m history
      · simp only [ever, not_true_eq_false, false_and, true_and, false_or]
        omega
      · simp [ever]
  | placements s =>
    obtain rfl : s = r := reads
    obtain ⟨heard, flagged⟩ := attention_sync (h := h) carried
    exact attends.still rfl rfl heard flagged

theorem attends_answers (p : Parameters) (capacity : Nat) (occasions : List Occasion)
    (carried : m ∈ r.sensors.map SensorKey.mount) (reads : ∀ o ∈ occasions, o.Reads r) :
    Attends m (({ capacity } : SensorHealth).heeded p occasions)
      (({ capacity } : SensorHealth).answers p occasions).2 := by
  have fresh : Attends m [] ({ capacity } : SensorHealth) := by
    constructor <;> simp [HasReported, daysSilent, sinceLast]
  exact heeded_induction occasions [] fresh fun _ _ o _ attends among heeds =>
    attends.heeds carried (reads o among) heeds

theorem isInactive_iff {k : SensorKey} :
    h.isInactive k = true ↔ k.mount ∈ h.silent.map SensorKey.mount := by
  simp [isInactive]

def ReportsFirst (m : Mount) (history : List Occasion) : Prop :=
  ∀ before r after, history = before ++ .day r :: after →
    (∀ o ∈ before, o.isDay = false) → HasReported m before

def ReportsDaily (m : Mount) (history : List Occasion) : Prop :=
  ∀ before r between s after, history = before ++ .day r :: (between ++ .day s :: after) →
    (∀ o ∈ between, o.isDay = false) → HasReported m between

theorem exists_first_day {occasions : List Occasion}
    (some_day : 0 < occasions.countP Occasion.isDay) :
    ∃ before r after, occasions = before ++ .day r :: after ∧ ∀ o ∈ before, o.isDay = false := by
  obtain ⟨day, member, isDay⟩ := List.countP_pos_iff.1 some_day
  have found : (occasions.find? Occasion.isDay).isSome := List.find?_isSome.2 ⟨day, member, isDay⟩
  obtain ⟨first, found⟩ := Option.isSome_iff_exists.1 found
  obtain ⟨isDay, before, after, split, earlier⟩ := List.find?_eq_some_iff_append.1 found
  cases first with
  | day r => exact ⟨before, r, after, split, by simpa using earlier⟩
  | event | minute | placements => contradiction

theorem daysSilent_le_of_daily {later : List Occasion} (daily : ReportsDaily m (history ++ later)) :
    daysSilent m history ≤ 1 := by
  by_contra many
  obtain ⟨earlier, split⟩ := exists_eq_append_sinceLast (Occasion.isReportOf m) history
  have days : 2 ≤ (sinceLast (Occasion.isReportOf m) history).reverse.countP Occasion.isDay := by
    rw [(List.reverse_perm _).countP_eq]
    exact Nat.lt_of_not_le many
  obtain ⟨a, r, rest, first, apart⟩ := exists_first_day (Nat.lt_of_lt_of_le Nat.zero_lt_two days)
  have one : a.countP Occasion.isDay = 0 := by simpa [List.countP_eq_zero] using apart
  rw [first, List.countP_append, one, List.countP_cons_of_pos rfl] at days
  have more : 0 < rest.countP Occasion.isDay := by omega
  obtain ⟨b, s, c, rfl, between⟩ := exists_first_day more
  obtain ⟨o, member, report⟩ := daily (earlier ++ a) r b s (c ++ later)
    (by rw [split, first]; simp [List.append_assoc]) between
  have among : o ∈ sinceLast (Occasion.isReportOf m) history := by
    rw [← List.mem_reverse, first]
    simp [member]
  exact absurd report (by simp [not_of_mem_sinceLast among])

theorem daysSilent_of_unreported (unreported : ¬HasReported m history) :
    daysSilent m history = history.countP Occasion.isDay := by
  have none : ∀ o ∈ history, o.isReportOf m = false := by simpa [HasReported] using unreported
  rw [daysSilent, sinceLast_of_none none]
  exact (List.reverse_perm history).countP_eq _

/-- After any run of the records under the same placements, events that they refused left out, the
mount of a carried sensor is flagged as silent if and only if it never reported and one evaluation
has been, or it reported and two have been since its last report. So a mount that reports between
any two consecutive evaluations is not flagged at any time from its first report on, and never if
that comes before the first evaluation. -/
theorem inactive_iff_silent_days (p : Parameters) (capacity : Nat) (r : Registry)
    (occasions : List Occasion) (reads : ∀ o ∈ occasions, o.Reads r) (k : SensorKey)
    (carried : k ∈ r.sensors) :
    let fresh : SensorHealth := { capacity }
    let history := fresh.heeded p occasions
    ((fresh.answers p occasions).2.isInactive k = true ↔
      (¬HasReported k.mount history ∧ 1 ≤ daysSilent k.mount history) ∨
        (HasReported k.mount history ∧ 2 ≤ daysSilent k.mount history)) ∧
    (ReportsDaily k.mount history → ∀ earlier, earlier <+: occasions →
      HasReported k.mount (fresh.heeded p earlier) ∨ ReportsFirst k.mount history →
        (fresh.answers p earlier).2.isInactive k = false) := by
  intro fresh history
  have mount : k.mount ∈ r.sensors.map SensorKey.mount := List.mem_map_of_mem carried
  refine ⟨?_, fun daily earlier begins reported => ?_⟩
  · rw [isInactive_iff]
    exact (attends_answers p capacity occasions mount reads).silent
  · obtain ⟨later, rfl⟩ := begins
    have attends : Attends k.mount (fresh.heeded p earlier) (fresh.answers p earlier).2 :=
      attends_answers p capacity earlier mount fun o member =>
        reads o (List.mem_append_left later member)
    have whole : history = fresh.heeded p earlier ++ (fresh.answers p earlier).2.heeded p later :=
      heeded_append earlier later
    rw [whole] at daily reported
    rw [Bool.eq_false_iff, ne_eq, isInactive_iff, attends.silent]
    rintro (⟨unreported, days⟩ | ⟨-, days⟩)
    · have first := reported.resolve_left unreported
      rw [daysSilent_of_unreported unreported] at days
      obtain ⟨before, s, after, split, apart⟩ := exists_first_day days
      obtain ⟨o, member, report⟩ := first before s
        (after ++ (fresh.answers p earlier).2.heeded p later) (by rw [split]; simp) apart
      exact unreported ⟨o, by simp [split, member], report⟩
    · have := daysSilent_le_of_daily daily
      omega

/-- A node with a motion sensor in front and one on its left. -/
def lookout : Registry :=
  ⟨9, [⟨1, ⟨0, 1⟩, .zero, Facing.down.octant, .pirPir⟩], true⟩

/-- Of two sensors that reported, the one that goes on is not flagged and the other is, by the
second evaluation. -/
theorem inactive_iff_silent_days_lookout :
    let fresh : SensorHealth := { capacity := 18 }
    let front : SensorKey := ⟨1, Facing.up.octant, .motion⟩
    let left : SensorKey := ⟨1, Facing.left.octant, .motion⟩
    let occasions : List Occasion :=
      [.placements lookout, .event left 3, .event front 5, .day lookout, .event front 1500,
        .day lookout]
    (∀ o ∈ occasions, o.Reads lookout) ∧ left ∈ lookout.sensors ∧ front ∈ lookout.sensors ∧
      (fresh.answers {} occasions).2.isInactive left = true ∧
      ReportsDaily front.mount (fresh.heeded {} occasions) ∧
      ∀ earlier, earlier <+: occasions → (fresh.answers {} earlier).2.isInactive front = false := by
  intro fresh front left occasions
  have reads : ∀ o ∈ occasions, o.Reads lookout := by simp [occasions, Occasion.Reads]
  have carried : left ∈ lookout.sensors ∧ front ∈ lookout.sensors := by decide
  have all : fresh.heeded {} occasions = occasions := rfl
  have daily : ReportsDaily front.mount (fresh.heeded {} occasions) := by
    intro before r between s after split apart
    obtain ⟨-, -, days⟩ : before = [.placements lookout, .event left 3, .event front 5] ∧
        r = lookout ∧ between ++ .day s :: after = [.event front 1500, .day lookout] := by
      simpa [all, occasions, List.cons_eq_append_iff] using split
    cases between with
    | nil => simp at days
    | cons o rest => exact ⟨o, List.mem_cons_self, by rw [(List.cons.inj days).1]; decide⟩
  have first : ReportsFirst front.mount (fresh.heeded {} occasions) := by
    intro before r after split apart
    have known : ∃ rest, before =
        .placements lookout :: .event left 3 :: .event front 5 :: rest := by
      rw [all] at split
      simp only [occasions, List.cons_eq_append_iff] at split
      grind
    obtain ⟨rest, rfl⟩ := known
    exact ⟨.event front 5, by simp, by decide⟩
  refine ⟨reads, carried.1, carried.2, ?_, daily, ?_⟩
  · exact (inactive_iff_silent_days {} 18 lookout occasions reads left carried.1).1.2
      (.inr (by decide +kernel))
  · exact fun earlier begins => (inactive_iff_silent_days {} 18 lookout occasions reads front
      carried.2).2 daily earlier begins (.inr first)

end WildlifeWarning.SensorHealth
