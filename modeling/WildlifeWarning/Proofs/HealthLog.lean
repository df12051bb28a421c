import Mathlib.Data.Finset.SymmDiff
import WildlifeWarning.Proofs.SensorHealth

/-! The changes that the health records return are a log of the flags.
Whoever starts with no flag and makes every change in turn never meets a flag raised twice or a flag
cleared that is down, and has at any time the flags that are raised. A change is a toggle then, and
what an operation owes the log is a symmetric difference. -/

namespace WildlifeWarning

structure Flag where
  key : SensorKey
  condition : Condition
  deriving DecidableEq

def Flag.all (crowded silent : List SensorKey) : List Flag :=
  crowded.map (⟨·, .hyperactive⟩) ++ silent.map (⟨·, .inactive⟩)

@[simp] theorem Flag.mem_all_hyperactive {crowded silent : List SensorKey} {k : SensorKey} :
    ⟨k, .hyperactive⟩ ∈ Flag.all crowded silent ↔ k ∈ crowded := by
  simp [all]

@[simp] theorem Flag.mem_all_inactive {crowded silent : List SensorKey} {k : SensorKey} :
    ⟨k, .inactive⟩ ∈ Flag.all crowded silent ↔ k ∈ silent := by
  simp [all]

theorem Flag.nodup_all {crowded silent : List SensorKey} (first : crowded.Nodup)
    (second : silent.Nodup) : (Flag.all crowded silent).Nodup := by
  rw [all, List.nodup_append]
  refine ⟨?_, ?_, ?_⟩
  · exact first.map fun k l same => congrArg Flag.key same
  · exact second.map fun k l same => congrArg Flag.key same
  · intro f raised g mute same
    obtain ⟨k, -, rfl⟩ := List.mem_map.1 raised
    obtain ⟨l, -, rfl⟩ := List.mem_map.1 mute
    simp at same

namespace HealthChange

def flag (c : HealthChange) : Flag := ⟨c.key, c.condition⟩

/-- The flags after the change; none if it raises one that is up or clears one that is down. -/
def applyTo? (flags : Finset Flag) (c : HealthChange) : Option (Finset Flag) :=
  if c.active then
    if c.flag ∈ flags then none else some (insert c.flag flags)
  else
    if c.flag ∈ flags then some (flags.erase c.flag) else none

def replay? (flags : Finset Flag) (changes : List HealthChange) : Option (Finset Flag) :=
  changes.foldlM applyTo? flags

theorem applyTo?_eq_symmDiff {flags : Finset Flag} {c : HealthChange}
    (effective : c.active = true ↔ c.flag ∉ flags) :
    c.applyTo? flags = some (symmDiff flags {c.flag}) := by
  unfold applyTo?
  by_cases up : c.flag ∈ flags
  · have cleared : c.active = false := by simpa [up] using effective
    rw [cleared, if_neg Bool.false_ne_true, if_pos up]
    congr 1
    ext f
    by_cases same : f = c.flag
    · simp [Finset.mem_symmDiff, same, up]
    · simp [Finset.mem_symmDiff, same]
  · have raised : c.active = true := effective.2 up
    rw [raised, if_pos rfl, if_neg up]
    congr 1
    ext f
    by_cases same : f = c.flag
    · simp [Finset.mem_symmDiff, same, up]
    · simp [Finset.mem_symmDiff, same]

theorem replay?_eq_symmDiff {flags : Finset Flag} {changes : List HealthChange}
    (distinct : (changes.map flag).Nodup)
    (effective : ∀ c ∈ changes, c.active = true ↔ c.flag ∉ flags) :
    replay? flags changes = some (symmDiff flags (changes.map flag).toFinset) := by
  induction changes generalizing flags with
  | nil =>
    have nothing : (([] : List HealthChange).map flag).toFinset = ⊥ := rfl
    rw [nothing, symmDiff_bot]
    rfl
  | cons c rest ih =>
    rw [List.map_cons, List.nodup_cons] at distinct
    have first := applyTo?_eq_symmDiff (effective c List.mem_cons_self)
    have later : ∀ d ∈ rest, d.active = true ↔ d.flag ∉ symmDiff flags {c.flag} := by
      intro d member
      have other : d.flag ≠ c.flag := fun same =>
        distinct.1 (same ▸ List.mem_map_of_mem member)
      rw [effective d (List.mem_cons_of_mem _ member)]
      simp [Finset.mem_symmDiff, other]
    have union : symmDiff {c.flag} (rest.map flag).toFinset =
        ((c :: rest).map flag).toFinset := by
      ext f
      by_cases same : f = c.flag
      · simp [Finset.mem_symmDiff, same, distinct.1]
      · simp [Finset.mem_symmDiff, same]
    calc replay? flags (c :: rest)
        = replay? (symmDiff flags {c.flag}) rest := by simp [replay?, first]
      _ = some (symmDiff (symmDiff flags {c.flag}) (rest.map flag).toFinset) :=
        ih distinct.2 later
      _ = some (symmDiff flags ((c :: rest).map flag).toFinset) := by
        rw [symmDiff_assoc, union]

end HealthChange

namespace SensorHealth

open HealthChange

variable {p : Parameters} {h next : SensorHealth} {k : SensorKey}

def flags (h : SensorHealth) : Finset Flag := (h.flagged.map flag).toFinset

def crowded (h : SensorHealth) : List SensorKey :=
  (h.records.filter (·.hyperactive)).map EventRecord.key

theorem map_flag_flagged (h : SensorHealth) : h.flagged.map flag = Flag.all h.crowded h.silent := by
  rw [flagged, List.map_append, List.map_map, List.map_map, Flag.all, crowded, List.map_map]
  rfl

theorem mem_crowded : k ∈ h.crowded ↔ ∃ e ∈ h.records, e.key = k ∧ e.hyperactive = true := by
  simp only [crowded, List.mem_map, List.mem_filter]
  grind

inductive Occasion where
  | event (key : SensorKey) (minute : UInt32)
  | minute
  | day (r : Registry)
  | placements (r : Registry)

/-- The changes returned, none where an event finds no room, and the records after it. -/
def answer (p : Parameters) (h : SensorHealth) : Occasion → List HealthChange × SensorHealth
  | .event key minute =>
    match h.record p key minute with
    | .ok (cleared, next) => (cleared.toList, next)
    | .error _ => ([], h)
  | .minute => h.evaluateHyperactivity p
  | .day r => h.evaluateInactivity r
  | .placements r => h.sync r

def answers (p : Parameters) (h : SensorHealth) : List Occasion → List HealthChange × SensorHealth
  | [] => ([], h)
  | occasion :: rest =>
    let (changes, next) := h.answer p occasion
    let (later, last) := next.answers p rest
    (changes ++ later, last)

structure Distinct (h : SensorHealth) : Prop where
  keys : h.keys.Nodup
  mounts : (h.silent.map SensorKey.mount).Nodup

theorem find?_of_mem (distinct : h.keys.Nodup) {e : EventRecord} (member : e ∈ h.records) :
    h.find? e.key = some e := Keyed.find?_of_mem EventRecord.key distinct member

theorem exists_record_iff (distinct : h.keys.Nodup) {P : EventRecord → Prop} :
    (∃ e ∈ h.records, e.key = k ∧ P e) ↔ ∃ e, h.find? k = some e ∧ P e := by
  constructor
  · intro ⟨e, member, same, holds⟩
    exact ⟨e, same ▸ find?_of_mem distinct member, holds⟩
  · intro ⟨e, found, holds⟩
    exact ⟨e, List.mem_of_find?_eq_some found, by simpa using List.find?_some found, holds⟩

theorem Distinct.nodup_flagged (distinct : h.Distinct) : (h.flagged.map flag).Nodup := by
  have crowded : h.crowded.Nodup := distinct.keys.sublist (List.filter_sublist.map _)
  rw [map_flag_flagged]
  exact Flag.nodup_all crowded (List.Nodup.of_map _ distinct.mounts)

/-- What an answer owes the log: its changes are of different sensors for each condition, each is
one, and together they lead to the flags that are raised then. -/
structure Logs (h : SensorHealth) (changes : List HealthChange) (next : SensorHealth)
    (calling mute : List SensorKey) : Prop where
  changed : changes.map flag = Flag.all calling mute
  once : calling.Nodup ∧ mute.Nodup
  effective : ∀ c ∈ changes, c.active = true ↔ c.flag ∉ h.flagged.map flag
  crowded : ∀ k, k ∈ next.crowded ↔ (k ∈ h.crowded ↔ k ∉ calling)
  silent : ∀ k, k ∈ next.silent ↔ (k ∈ h.silent ↔ k ∉ mute)
  distinct : next.Distinct

theorem Logs.replay? {changes : List HealthChange} {calling mute : List SensorKey}
    (logs : h.Logs changes next calling mute) :
    replay? h.flags changes = some next.flags := by
  have changed : (changes.map flag).Nodup := logs.changed ▸ Flag.nodup_all logs.once.1 logs.once.2
  have effective : ∀ c ∈ changes, c.active = true ↔ c.flag ∉ h.flags := by
    simpa [flags] using logs.effective
  rw [replay?_eq_symmDiff changed effective]
  congr 1
  ext ⟨k, condition⟩
  rw [Finset.mem_symmDiff, flags, flags, List.mem_toFinset, List.mem_toFinset, List.mem_toFinset,
    map_flag_flagged, map_flag_flagged, logs.changed]
  cases condition with
  | hyperactive =>
    have crowded := logs.crowded k
    simp only [Flag.mem_all_hyperactive]
    tauto
  | inactive =>
    have silent := logs.silent k
    simp only [Flag.mem_all_inactive]
    tauto

theorem logs_nothing (distinct : h.Distinct) : h.Logs [] h [] [] where
  changed := rfl
  once := ⟨List.nodup_nil, List.nodup_nil⟩
  effective := by simp
  crowded := by simp
  silent := by simp
  distinct := distinct

theorem eq_of_mount (distinct : h.Distinct) {l : SensorKey} (here : k ∈ h.silent)
    (there : l ∈ h.silent) (same : k.mount = l.mount) : k = l :=
  List.inj_on_of_nodup_map distinct.mounts here there same

theorem record_eq {key : SensorKey} {minute : UInt32} {cleared : Option HealthChange}
    (recorded : h.record p key minute = .ok (cleared, next)) :
    cleared = (h.silent.find? fun k => k.mount == key.mount).map (⟨·, .inactive, false⟩) ∧
      next.records = Keyed.store EventRecord.key h.records
        ((h.recordOf p key).push minute) ∧
      next.silent = h.silent.filter fun k => k.mount ≠ key.mount := by
  unfold record at recorded
  simp only at recorded
  split at recorded
  · contradiction
  · obtain ⟨rfl, rfl⟩ := Prod.mk.inj (Except.ok.inj recorded)
    exact ⟨rfl, rfl, rfl⟩

theorem distinct_record {key : SensorKey} {minute : UInt32} {cleared : Option HealthChange}
    (distinct : h.Distinct) (recorded : h.record p key minute = .ok (cleared, next)) :
    next.Distinct := by
  constructor
  · exact nodup_keys_record distinct.keys recorded
  · rw [(record_eq recorded).2.2]
    exact distinct.mounts.sublist (List.filter_sublist.map _)

theorem mem_crowded_record {key : SensorKey} {minute : UInt32} {cleared : Option HealthChange}
    (distinct : h.Distinct) (recorded : h.record p key minute = .ok (cleared, next)) :
    k ∈ next.crowded ↔ k ∈ h.crowded := by
  have renewed := key_renewed p h key minute
  rw [mem_crowded, mem_crowded, exists_record_iff (distinct_record distinct recorded).keys,
    exists_record_iff distinct.keys, find?, (record_eq recorded).2.1]
  by_cases same : k = key
  · have stored := Keyed.find?_store_self EventRecord.key h.records
      ((h.recordOf p key).push minute)
    rw [renewed] at stored
    rw [same, stored, recordOf]
    cases h.find? key with
    | none => simp [EventRecord.push, EventRecord.blank]
    | some e => simp [EventRecord.push]
  · have other : ((h.recordOf p key).push minute).key ≠ k := by
      rw [renewed]
      exact Ne.symm same
    rw [Keyed.find?_store_of_ne EventRecord.key h.records other]
    rfl

theorem logs_record {key : SensorKey} {minute : UInt32} {cleared : Option HealthChange}
    (distinct : h.Distinct) (recorded : h.record p key minute = .ok (cleared, next)) :
    h.Logs cleared.toList next [] (h.silent.find? fun k => k.mount == key.mount).toList := by
  obtain ⟨change, -, silent⟩ := record_eq recorded
  have crowded : ∀ k, k ∈ next.crowded ↔ (k ∈ h.crowded ↔ k ∉ []) := by
    simpa using fun k => mem_crowded_record (k := k) distinct recorded
  have kept := distinct_record distinct recorded
  cases found : h.silent.find? fun k => k.mount == key.mount with
  | none =>
    have unflagged : ∀ k ∈ h.silent, k.mount ≠ key.mount := by
      simpa using List.find?_eq_none.1 found
    have same : next.silent = h.silent := by
      rw [silent]
      exact List.filter_eq_self.2 (by simpa using unflagged)
    rw [change, found]
    exact ⟨rfl, ⟨List.nodup_nil, List.nodup_nil⟩, by simp, crowded, by simp [same], kept⟩
  | some flagged =>
    have there := List.mem_of_find?_eq_some found
    have mount : flagged.mount = key.mount := by simpa using List.find?_some found
    rw [change, found]
    refine ⟨rfl, ⟨List.nodup_nil, List.nodup_singleton _⟩, ?_, crowded, ?_, kept⟩
    · simp [map_flag_flagged, flag, there]
    · intro k
      by_cases same : k = flagged
      · simp [same, silent, mount, there]
      · have other : k ∈ h.silent → k.mount ≠ key.mount := by
          intro here named
          exact same (eq_of_mount distinct here there (named.trans mount.symm))
        simpa [same, silent] using other

def misjudged (p : Parameters) (h : SensorHealth) : List EventRecord :=
  h.records.filter fun e => e.isCrowded p ≠ e.hyperactive

theorem changes_evaluateHyperactivity (p : Parameters) (h : SensorHealth) :
    (h.evaluateHyperactivity p).1 =
      (h.misjudged p).map fun e => ⟨e.key, .hyperactive, e.isCrowded p⟩ := by
  simp only [evaluateHyperactivity, misjudged]
  induction h.records with
  | nil => rfl
  | cons e rest ih =>
    by_cases same : e.isCrowded p = e.hyperactive
    · simpa [same] using ih
    · simpa [same] using ih

theorem mem_crowded_evaluateHyperactivity :
    k ∈ (h.evaluateHyperactivity p).2.crowded ↔
      ∃ e ∈ h.records, e.key = k ∧ e.isCrowded p = true := by
  simp [mem_crowded, evaluateHyperactivity]

theorem mem_misjudged : k ∈ (h.misjudged p).map EventRecord.key ↔
    ∃ e ∈ h.records, e.key = k ∧ e.isCrowded p ≠ e.hyperactive := by
  simp only [misjudged, List.mem_map, List.mem_filter, decide_eq_true_eq]
  grind

theorem logs_evaluateHyperactivity (p : Parameters) (distinct : h.Distinct) :
    h.Logs (h.evaluateHyperactivity p).1 (h.evaluateHyperactivity p).2
      ((h.misjudged p).map EventRecord.key) [] := by
  have same := (sameSensors_evaluateHyperactivity p h).keys
  rw [changes_evaluateHyperactivity]
  refine ⟨?_, ⟨?_, List.nodup_nil⟩, ?_, ?_, ?_, ⟨same ▸ distinct.keys, distinct.mounts⟩⟩
  · simp [Flag.all, flag]
  · exact distinct.keys.sublist (List.filter_sublist.map _)
  · intro c member
    obtain ⟨e, among, rfl⟩ := List.mem_map.1 member
    obtain ⟨known, differs⟩ := List.mem_filter.1 among
    rw [map_flag_flagged, flag, Flag.mem_all_hyperactive, mem_crowded,
      exists_record_iff distinct.keys, find?_of_mem distinct.keys known]
    cases crowded : e.isCrowded p <;> cases raised : e.hyperactive <;> simp_all
  · intro k
    rw [mem_crowded_evaluateHyperactivity, mem_misjudged, mem_crowded,
      exists_record_iff distinct.keys, exists_record_iff distinct.keys,
      exists_record_iff distinct.keys]
    cases h.find? k with
    | none => simp
    | some e =>
      cases crowded : e.isCrowded p <;> cases raised : e.hyperactive <;> simp [crowded, raised]
  · simp [evaluateHyperactivity]

theorem perm_insertSilent (key : SensorKey) (silent : List SensorKey) :
    (insertSilent key silent).Perm (key :: silent) := by
  induction silent with
  | nil => rfl
  | cons first rest ih =>
    unfold insertSilent
    split
    · rfl
    · exact (ih.cons first).trans (List.Perm.swap key first rest)

theorem perm_insertAll (keys silent : List SensorKey) :
    (keys.foldl (fun silent key => insertSilent key silent) silent).Perm (keys ++ silent) := by
  induction keys generalizing silent with
  | nil => rfl
  | cons key rest ih =>
    have first := (perm_insertSilent key silent).append_left rest
    exact ((ih (insertSilent key silent)).trans first).trans List.perm_middle

theorem nodup_mounts_newlySilent (seen : List Mount) (silent sensors : List SensorKey)
    (distinct : (silent.map SensorKey.mount).Nodup) :
    ((newlySilent seen silent sensors ++ silent).map SensorKey.mount).Nodup := by
  fun_induction newlySilent seen silent sensors with
  | case1 => exact distinct
  | case2 silent key rest _ ih => exact ih distinct
  | case3 silent key rest unheard ih =>
    have new : key.mount ∉ silent.map SensorKey.mount := fun known => unheard (.inr known)
    have later := ih (List.nodup_cons.2 ⟨new, distinct⟩)
    exact (List.perm_middle.map SensorKey.mount).nodup_iff.1 later

theorem logs_evaluateInactivity (r : Registry) (distinct : h.Distinct) :
    h.Logs (h.evaluateInactivity r).1 (h.evaluateInactivity r).2 []
      (newlySilent h.seen h.silent r.sensors) := by
  have mounts := nodup_mounts_newlySilent h.seen h.silent r.sensors distinct.mounts
  have silent := perm_insertAll (newlySilent h.seen h.silent r.sensors) h.silent
  have parts := List.nodup_append.1 (List.Nodup.of_map _ mounts)
  have new : ∀ k ∈ newlySilent h.seen h.silent r.sensors, k ∉ h.silent :=
    fun k among known => parts.2.2 k among k known rfl
  simp only [evaluateInactivity]
  refine ⟨?_, ⟨List.nodup_nil, parts.1⟩, ?_, ?_, ?_,
    ⟨distinct.keys, (silent.map SensorKey.mount).nodup_iff.2 mounts⟩⟩
  · simp [Flag.all, flag]
  · intro c member
    obtain ⟨k, among, rfl⟩ := List.mem_map.1 member
    simp [map_flag_flagged, flag, new k among]
  · simp [crowded]
  · intro k
    have apart := new k
    rw [silent.mem_iff, List.mem_append]
    tauto

theorem logs_sync (r : Registry) (distinct : h.Distinct) :
    h.Logs (h.sync r).1 (h.sync r).2
      ((h.records.filter fun e => e.key ∉ r.sensors && e.hyperactive).map EventRecord.key)
      (h.silent.filter fun k => k.mount ∉ r.sensors.map SensorKey.mount) := by
  have keys : (h.sync r).2.keys.Nodup := by
    rw [keys_sync]
    exact distinct.keys.filter _
  have mounts : ((h.sync r).2.silent.map SensorKey.mount).Nodup :=
    distinct.mounts.sublist (List.filter_sublist.map _)
  refine ⟨?_, ⟨?_, ?_⟩, ?_, ?_, ?_, ⟨keys, mounts⟩⟩
  · simp only [sync, List.map_append, List.map_map, Flag.all]
    rfl
  · exact distinct.keys.sublist (List.filter_sublist.map _)
  · exact (List.Nodup.of_map _ distinct.mounts).filter _
  · intro c member
    rw [map_flag_flagged]
    rcases List.mem_append.1 member with calmed | heard
    · obtain ⟨e, among, rfl⟩ := List.mem_map.1 calmed
      obtain ⟨known, dropped⟩ := List.mem_filter.1 among
      have raised : e.key ∈ h.crowded :=
        mem_crowded.2 ⟨e, known, rfl, (Bool.and_eq_true_iff.1 dropped).2⟩
      simp [flag, raised]
    · obtain ⟨k, among, rfl⟩ := List.mem_map.1 heard
      simp [flag, (List.mem_filter.1 among).1]
  · intro k
    simp only [crowded, sync, List.mem_map, List.mem_filter, Bool.and_eq_true, decide_eq_true_eq]
    grind
  · intro k
    simp only [sync, List.mem_filter, decide_eq_true_eq]
    tauto

theorem logs_answer (p : Parameters) (distinct : h.Distinct) (occasion : Occasion) :
    ∃ calling mute, h.Logs (h.answer p occasion).1 (h.answer p occasion).2 calling mute := by
  cases occasion with
  | event key minute =>
    simp only [answer]
    split
    · next recorded => exact ⟨_, _, logs_record distinct recorded⟩
    · exact ⟨_, _, logs_nothing distinct⟩
  | minute => exact ⟨_, _, logs_evaluateHyperactivity p distinct⟩
  | day r => exact ⟨_, _, logs_evaluateInactivity r distinct⟩
  | placements r => exact ⟨_, _, logs_sync r distinct⟩

theorem replay?_answers (p : Parameters) (distinct : h.Distinct) (occasions : List Occasion) :
    HealthChange.replay? h.flags (h.answers p occasions).1 = some (h.answers p occasions).2.flags ∧
      (h.answers p occasions).2.Distinct := by
  induction occasions generalizing h with
  | nil => exact ⟨rfl, distinct⟩
  | cons occasion rest ih =>
    obtain ⟨calling, mute, logs⟩ := logs_answer p distinct occasion
    obtain ⟨later, kept⟩ := ih logs.distinct
    have first := logs.replay?
    refine ⟨?_, kept⟩
    simp only [HealthChange.replay?, answers, List.foldlM_append] at first later ⊢
    rw [first]
    exact later

/-- Whatever health records are asked on, events without room included, and whatever the placements
are each time: all changes returned so far, made in turn from no flag on, raise flags that are down
and clear flags that are up, and leave those that are raised now, each of them listed once. -/
theorem changes_log_flags (p : Parameters) (capacity : Nat) (occasions : List Occasion) :
    HealthChange.replay? ∅ (({ capacity } : SensorHealth).answers p occasions).1 =
        some (({ capacity } : SensorHealth).answers p occasions).2.flags ∧
      ((({ capacity } : SensorHealth).answers p occasions).2.flagged.map flag).Nodup ∧
      ∀ c ∈ (({ capacity } : SensorHealth).answers p occasions).2.flagged, c.active = true := by
  have fresh : ({ capacity } : SensorHealth).Distinct := ⟨List.nodup_nil, List.nodup_nil⟩
  obtain ⟨replayed, distinct⟩ := replay?_answers p fresh occasions
  refine ⟨replayed, distinct.nodup_flagged, ?_⟩
  intro c member
  rcases List.mem_append.1 member with crowded | silent
  · obtain ⟨e, -, rfl⟩ := List.mem_map.1 crowded
    rfl
  · obtain ⟨k, -, rfl⟩ := List.mem_map.1 silent
    rfl

end SensorHealth

end WildlifeWarning
