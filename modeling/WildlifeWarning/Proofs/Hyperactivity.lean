import WildlifeWarning.Proofs.HealthHistory

/-! Hyperactive sensors are those whose latest events lie close together.
The ring of a record holds the latest minutes of a history that grows without bound: the `i`-th of
them, the newest first, stands `i + 1` places before the cursor. So a verdict reads the newest
minute and the oldest of the window, and nothing older. -/

namespace WildlifeWarning

/-- The ring holds the latest of these minutes, the newest first. -/
structure EventRecord.Holds (e : EventRecord) (size : Nat) (minutes : List UInt32) : Prop where
  length : e.minutes.length = size
  next : e.next = minutes.length % size
  filled : e.filled = min minutes.length size
  place : ∀ i < size, i < minutes.length →
    e.minutes[(minutes.length - (i + 1)) % size]? = minutes[i]?

namespace EventRecord

variable {p : Parameters} {e : EventRecord} {size : Nat} {minutes : List UInt32}

theorem window_pos (p : Parameters) : 0 < window p := by
  unfold window
  omega

theorem holds_blank (p : Parameters) (key : SensorKey) : (blank p key).Holds (window p) [] where
  length := List.length_replicate
  next := (Nat.zero_mod _).symm
  filled := (Nat.zero_min _).symm
  place := by simp

theorem place_ne {n i : Nat} (within : i + 1 < size) (known : i < n) :
    (n - (i + 1)) % size ≠ n % size := by
  intro same
  have round := Nat.sub_mod_eq_zero_of_mod_eq same.symm
  rw [Nat.sub_sub_self known, Nat.mod_eq_of_lt within] at round
  omega

theorem Holds.push (holds : e.Holds size minutes) (pos : 0 < size) (minute : UInt32) :
    (e.push minute).Holds size (minute :: minutes) := by
  obtain ⟨length, next, filled, place⟩ := holds
  have cursor : e.next < size := next ▸ Nat.mod_lt _ pos
  refine ⟨?_, ?_, ?_, ?_⟩
  · simp only [EventRecord.push, List.length_set, length]
  · simp only [EventRecord.push, length, next, List.length_cons, Nat.mod_add_mod]
  · simp only [EventRecord.push, length, filled, List.length_cons]
    omega
  · intro i within known
    cases i with
    | zero => simp [EventRecord.push, ← next, length, cursor]
    | succ i =>
      rw [List.length_cons, Nat.succ_lt_succ_iff] at known
      have other : e.next ≠ (minutes.length - (i + 1)) % size := by
        rw [next]
        exact (place_ne within known).symm
      simp only [EventRecord.push, List.length_cons, Nat.add_sub_add_right, List.getElem?_cons_succ]
      rw [List.getElem?_set_ne other]
      exact place i (by omega) known

/-- Minutes between events, on average over so many of the latest. -/
def meanGap (size : Nat) (minutes : List UInt32) : Single :=
  Binary.ofNat ((minutes.getD 0 0).toNat - (minutes.getD (size - 1) 0).toNat) / Binary.ofNat size

theorem meanGap_take (pos : 0 < size) (minutes : List UInt32) :
    meanGap size (minutes.take size) = meanGap size minutes := by
  have last : size - 1 < size := Nat.sub_lt pos Nat.one_pos
  simp [meanGap, List.getD_eq_getElem?_getD, pos, last]

theorem Holds.newest_eq (holds : e.Holds size minutes) (pos : 0 < size)
    (known : 0 < minutes.length) : e.newest = (minutes.length - 1) % size := by
  calc e.newest
      = (minutes.length % size + (size - 1)) % size := by
        rw [newest, holds.length, holds.next, Nat.add_sub_assoc pos]
    _ = (minutes.length + (size - 1)) % size := Nat.mod_add_mod ..
    _ = (minutes.length - 1 + size) % size := by congr 1; omega
    _ = (minutes.length - 1) % size := Nat.add_mod_right ..

theorem Holds.averageGap?_eq (holds : e.Holds size minutes) (pos : 0 < size) :
    e.averageGap? = if size ≤ minutes.length then some (meanGap size minutes) else none := by
  have read : ∀ i < size, i < minutes.length →
      e.minutes[(minutes.length - (i + 1)) % size]? = some (minutes.getD i 0) := by
    intro i within known
    rw [holds.place i within known, List.getD_eq_getElem?_getD, List.getElem?_eq_getElem known]
    rfl
  unfold averageGap?
  rw [holds.length, holds.filled]
  by_cases full : size ≤ minutes.length
  · have oldest : e.minutes[e.next]? = some (minutes.getD (size - 1) 0) := by
      rw [← read (size - 1) (by omega) (by omega), Nat.sub_add_cancel pos, holds.next,
        Nat.mod_eq_sub_mod full]
    have newest : e.minutes[e.newest]? = some (minutes.getD 0 0) := by
      rw [← read 0 pos (by omega), holds.newest_eq pos (by omega)]
    rw [if_neg (by omega), if_pos full, oldest, newest]
    rfl
  · rw [if_pos (by omega), if_neg full]

theorem Holds.isCrowded_iff (holds : e.Holds size minutes) (pos : 0 < size) :
    e.isCrowded p = true ↔
      size ≤ minutes.length ∧ meanGap size minutes < p.hyperactivityMinutes := by
  rw [isCrowded, holds.averageGap?_eq pos]
  by_cases full : size ≤ minutes.length <;> simp [full]

theorem Holds.inRing (holds : e.Holds size minutes) (pos : 0 < size) :
    e.minutes.length = size ∧ e.next < e.minutes.length ∧ e.newest < e.minutes.length := by
  have nonempty : 0 < e.minutes.length := holds.length.symm ▸ pos
  refine ⟨holds.length, ?_, Nat.mod_lt _ nonempty⟩
  rw [holds.next, holds.length]
  exact Nat.mod_lt _ pos

end EventRecord

namespace SensorHealth

open EventRecord

variable {p : Parameters} {h : SensorHealth} {key : SensorKey}

def Occasion.minuteOf? (key : SensorKey) : Occasion → Option UInt32
  | .event k time => if k = key then some time else none
  | .minute | .day _ | .placements _ => none

def Occasion.drops (key : SensorKey) : Occasion → Bool
  | .placements r => !r.sensors.contains key
  | .event .. | .minute | .day _ => false

/-- The minutes of the sensor's events since its record was dropped last, the newest first. -/
def minutesOf (key : SensorKey) (history : List Occasion) : List UInt32 :=
  (sinceLast (Occasion.drops key) history).filterMap (Occasion.minuteOf? key)

theorem minutesOf_concat (history : List Occasion) (occasion : Occasion) :
    minutesOf key (history ++ [occasion]) =
      if occasion.drops key then []
      else (occasion.minuteOf? key).toList ++ minutesOf key history := by
  rw [minutesOf, sinceLast_concat]
  cases occasion.drops key with
  | true => rfl
  | false => cases minute : occasion.minuteOf? key <;> simp [minutesOf, minute]

structure Remembers (p : Parameters) (history : List Occasion) (h : SensorHealth) : Prop where
  distinct : h.keys.Nodup
  recorded : ∀ e ∈ h.records,
    minutesOf e.key history ≠ [] ∧ e.Holds (window p) (minutesOf e.key history)
  unrecorded : ∀ key ∉ h.keys, minutesOf key history = []

variable {history : List Occasion}

theorem Remembers.recordOf (remembers : Remembers p history h) (key : SensorKey) :
    (h.recordOf p key).Holds (window p) (minutesOf key history) := by
  unfold SensorHealth.recordOf
  cases found : h.find? key with
  | none =>
    rw [remembers.unrecorded key (find?_eq_none_iff.1 found)]
    exact holds_blank p key
  | some e =>
    have same : e.key = key := by simpa using List.find?_some found
    exact same ▸ (remembers.recorded e (List.mem_of_find?_eq_some found)).2

theorem minutesOf_event (minute : UInt32) (k : SensorKey) :
    minutesOf k (history ++ [.event key minute]) =
      if key = k then minute :: minutesOf k history else minutesOf k history := by
  rw [minutesOf_concat]
  by_cases same : key = k <;> simp [Occasion.drops, Occasion.minuteOf?, same]

theorem Remembers.record {minute : UInt32} {cleared : Option HealthChange} {next : SensorHealth}
    (remembers : Remembers p history h) (recorded : h.record p key minute = .ok (cleared, next)) :
    Remembers p (history ++ [.event key minute]) next := by
  have records := (record_eq recorded).2.1
  have renewed := key_renewed p h key minute
  have distinct := nodup_keys_record remembers.distinct recorded
  refine ⟨distinct, fun e member => ?_, fun k unknown => ?_⟩
  · rw [minutesOf_event]
    by_cases same : key = e.key
    · subst same
      have stored := Keyed.find?_store_self EventRecord.key h.records
        ((h.recordOf p e.key).push minute)
      rw [← records, renewed] at stored
      have own : e = (h.recordOf p e.key).push minute :=
        Option.some.inj ((find?_of_mem distinct member).symm.trans stored)
      have pushed := (remembers.recordOf e.key).push (window_pos p) minute
      rw [← own] at pushed
      rw [if_pos rfl]
      exact ⟨List.cons_ne_nil _ _, pushed⟩
    · rw [if_neg same]
      rw [records] at member
      rcases Keyed.mem_of_mem_store EventRecord.key member with rfl | old
      · exact absurd renewed.symm same
      · exact remembers.recorded e old
  · have apart : key ≠ k ∧ k ∉ h.keys := by
      rw [(record_eq_ok recorded).2.1] at unknown
      split at unknown
      · next known => exact ⟨fun same => unknown (same ▸ known), unknown⟩
      · simpa [not_or, and_comm, eq_comm] using unknown
    rw [minutesOf_event, if_neg apart.1]
    exact remembers.unrecorded k apart.2

theorem Remembers.heeds {occasion : Occasion} {next : SensorHealth}
    (remembers : Remembers p history h) (heeds : Heeds p h occasion next) :
    Remembers p (history ++ [occasion]) next := by
  have still : ∀ k, occasion.drops k = false → occasion.minuteOf? k = none →
      minutesOf k (history ++ [occasion]) = minutesOf k history := by
    intro k kept silent
    rw [minutesOf_concat, kept, silent]
    rfl
  cases heeds with
  | event recorded => exact remembers.record recorded
  | minute =>
    have same := (sameSensors_evaluateHyperactivity p h).keys
    refine ⟨same ▸ remembers.distinct, fun e member => ?_, fun k unknown => ?_⟩
    · obtain ⟨old, known, rfl⟩ := List.mem_map.1 member
      obtain ⟨some_event, holds⟩ := remembers.recorded old known
      rw [still _ rfl rfl]
      exact ⟨some_event, holds.length, holds.next, holds.filled, holds.place⟩
    · rw [still k rfl rfl]
      exact remembers.unrecorded k (same ▸ unknown)
  | day r =>
    refine ⟨remembers.distinct, fun e member => ?_, fun k unknown => ?_⟩
    · rw [still _ rfl rfl]
      exact remembers.recorded e member
    · rw [still k rfl rfl]
      exact remembers.unrecorded k unknown
  | placements r =>
    refine ⟨?_, fun e member => ?_, fun k unknown => ?_⟩
    · rw [keys_sync]
      exact remembers.distinct.filter _
    · obtain ⟨known, carried⟩ := List.mem_filter.1 member
      rw [still _ (by simpa [Occasion.drops] using carried) rfl]
      exact remembers.recorded e known
    · rw [keys_sync] at unknown
      rw [minutesOf_concat]
      split
      · rfl
      · next kept =>
        have carried : k ∈ r.sensors := by simpa [Occasion.drops] using kept
        exact remembers.unrecorded k fun known =>
          unknown (List.mem_filter.2 ⟨known, decide_eq_true carried⟩)

theorem remembers_answers (p : Parameters) (capacity : Nat) (occasions : List Occasion) :
    Remembers p (({ capacity } : SensorHealth).heeded p occasions)
      (({ capacity } : SensorHealth).answers p occasions).2 := by
  have fresh : Remembers p [] ({ capacity } : SensorHealth) :=
    ⟨List.nodup_nil, by simp, fun _ _ => rfl⟩
  exact heeded_induction occasions [] fresh fun _ _ _ _ remembers _ heeds => remembers.heeds heeds

theorem isHyperactive_iff : h.isHyperactive key = true ↔ key ∈ h.crowded := by
  rw [mem_crowded]
  simp [isHyperactive]

theorem Remembers.mem_keys_iff (remembers : Remembers p history h) :
    key ∈ h.keys ↔ minutesOf key history ≠ [] := by
  constructor
  · intro known
    obtain ⟨e, member, rfl⟩ := List.mem_map.1 known
    exact (remembers.recorded e member).1
  · intro some_event
    exact Decidable.byContradiction fun unknown => some_event (remembers.unrecorded key unknown)

theorem Remembers.isHyperactive_iff (remembers : Remembers p history h) :
    (h.evaluateHyperactivity p).2.isHyperactive key = true ↔
      window p ≤ (minutesOf key history).length ∧
        meanGap (window p) (minutesOf key history) < p.hyperactivityMinutes := by
  rw [SensorHealth.isHyperactive_iff, mem_crowded_evaluateHyperactivity]
  constructor
  · rintro ⟨e, member, rfl, crowded⟩
    exact ((remembers.recorded e member).2.isCrowded_iff (window_pos p)).1 crowded
  · intro close
    have some_event : minutesOf key history ≠ [] :=
      List.ne_nil_of_length_pos ((window_pos p).trans_le close.1)
    obtain ⟨e, member, rfl⟩ := List.mem_map.1 (remembers.mem_keys_iff.2 some_event)
    exact ⟨e, member, rfl,
      ((remembers.recorded e member).2.isCrowded_iff (window_pos p)).2 close⟩

theorem Remembers.isHyperactive_iff_take (remembers : Remembers p history h) :
    (h.evaluateHyperactivity p).2.isHyperactive key = true ↔
      window p ≤ ((minutesOf key history).take (window p)).length ∧
        meanGap (window p) ((minutesOf key history).take (window p)) <
          p.hyperactivityMinutes := by
  rw [remembers.isHyperactive_iff, meanGap_take (window_pos p), List.length_take,
    Nat.le_min, and_iff_right (Nat.le_refl _)]

/-- After any run of the records, events that they refused included, a sensor is judged hyperactive
if and only if as many of its events as the window holds came since its record was last made, and
the gap between them, on average from the earliest of these to the latest, is below the threshold.
Events from before do not matter: another run that ends in the same events of the window is judged
alike. A sensor has a record as long as such events are known, and the places of the ring that are
read and written lie in it. -/
theorem hyperactive_iff_latest_close (p : Parameters) (capacity : Nat) (occasions : List Occasion)
    (key : SensorKey) :
    let fresh : SensorHealth := { capacity }
    let h := (fresh.answers p occasions).2
    let minutes := minutesOf key (fresh.heeded p occasions)
    let w := max 2 p.hyperactivityWindow
    ((h.evaluateHyperactivity p).2.isHyperactive key = true ↔
      w ≤ minutes.length ∧
        (Binary.ofNat ((minutes.getD 0 0).toNat - (minutes.getD (w - 1) 0).toNat) /
          Binary.ofNat w : Single) < p.hyperactivityMinutes) ∧
    (∀ others, (minutesOf key (fresh.heeded p others)).take w = minutes.take w →
      ((fresh.answers p others).2.evaluateHyperactivity p).2.isHyperactive key =
        (h.evaluateHyperactivity p).2.isHyperactive key) ∧
    (key ∈ h.keys ↔ minutes ≠ []) ∧
    (∀ e ∈ h.records,
      e.minutes.length = w ∧ e.next < e.minutes.length ∧ e.newest < e.minutes.length) ∧
    (h.recordOf p key).next < (h.recordOf p key).minutes.length := by
  intro fresh h minutes w
  have pos : 0 < w := window_pos p
  have remembers : Remembers p (fresh.heeded p occasions) h :=
    remembers_answers p capacity occasions
  refine ⟨remembers.isHyperactive_iff, fun others alike => ?_, remembers.mem_keys_iff,
    fun e member => (remembers.recorded e member).2.inRing pos,
    ((remembers.recordOf key).inRing pos).2.1⟩
  have also := remembers_answers p capacity others
  rw [Bool.eq_iff_iff, also.isHyperactive_iff_take, remembers.isHyperactive_iff_take]
  exact alike ▸ Iff.rfl

/-- Three events of two minutes call for the flag, whether an older one is in the history or went
with the record that its sensor had before. -/
theorem hyperactive_iff_latest_close_renewed :
    let p : Parameters := { hyperactivityWindow := 3 }
    let fresh : SensorHealth := { capacity := 1 }
    let key : SensorKey := ⟨1, Facing.up.octant, .motion⟩
    let latest : List Occasion := [.event key 50, .event key 51, .event key 51]
    let lasting : List Occasion := .event key 0 :: latest
    let renewed : List Occasion := .event key 7 :: .placements { capacity := 9 } :: latest
    minutesOf key (fresh.heeded p lasting) = [51, 51, 50, 0] ∧
      minutesOf key (fresh.heeded p renewed) = [51, 51, 50] ∧
      ((fresh.answers p lasting).2.evaluateHyperactivity p).2.isHyperactive key = true ∧
      ((fresh.answers p renewed).2.evaluateHyperactivity p).2.isHyperactive key = true := by
  intro p fresh key latest lasting renewed
  have first : minutesOf key (fresh.heeded p lasting) = [51, 51, 50, 0] := by decide +kernel
  have second : minutesOf key (fresh.heeded p renewed) = [51, 51, 50] := by decide +kernel
  obtain ⟨verdict, older, -⟩ := hyperactive_iff_latest_close p 1 lasting key
  have close : ((fresh.answers p lasting).2.evaluateHyperactivity p).2.isHyperactive key = true :=
    verdict.2 (by decide +kernel)
  exact ⟨first, second, close, (older renewed (by decide +kernel)).trans close⟩

end SensorHealth

end WildlifeWarning
