import WildlifeWarning.Settings

/-! Settings in layers. A layer gives some fields and leaves the others; laid on settings it
replaces the fields that it gives. A file is one layer and the environment is another, so that the
settings in force are the tuned ones under these two. -/

namespace WildlifeWarning

namespace Fields

variable {α β : Type} (fs : Fields) (name : String) (read? : Datum → Option α)

def given? : Option (Option α) := fs.optional name (fun d => (read? d).map some) none

theorem optional_map (f : α → β) (default : α) :
    fs.optional name (fun d => (read? d).map f) (f default) =
      (fs.optional name read? default).map f := by
  unfold optional
  cases fs.lookup name <;> rfl

theorem optional_eq_map_given? (default : α) :
    fs.optional name read? default = (fs.given? name read?).map (·.getD default) := by
  unfold given? optional
  cases fs.lookup name with
  | none => rfl
  | some d => cases h : read? d <;> simp [h]

end Fields

structure LayoutLayer where
  nodesX : Option UInt8 := none
  nodesY : Option UInt8 := none
  deriving DecidableEq

structure ParametersLayer where
  grid : LayoutLayer := {}
  activityMin : Option Single := none
  activityMax : Option Single := none
  commonWeight : Option Single := none
  motionWeight : Option Single := none
  rangingWeight : Option Single := none
  roadProximity : Option (List Single) := none
  commonTrickle : Option Single := none
  motionTrickle : Option Single := none
  rangingTrickle : Option Single := none
  roadTrickle : Option (List Single) := none
  decayFactor : Option Single := none
  possibleRoadside : Option Single := none
  possibleInland : Option Single := none
  detectionRoadside : Option Single := none
  detectionInland : Option Single := none
  concernDwell : Option Nat := none
  alarmDwell : Option Nat := none
  reinforcementPeriod : Option Nat := none
  hyperactivityWindow : Option Nat := none
  hyperactivityMinutes : Option Single := none
  nodeSeparationCm : Option UInt16 := none
  offsetScaleCm : Option UInt16 := none
  deriving DecidableEq

structure DeploymentLayer where
  nodeCapacity : Option Nat := none
  sensorCapacity : Option Nat := none
  pagePoolCapacity : Option Nat := none
  sampleQueueCapacity : Option Nat := none
  sensorErrorCapacity : Option Nat := none
  pagePeriodMs : Option Nat := none
  deriving DecidableEq

structure SettingsLayer where
  algorithm : ParametersLayer := {}
  gateway : DeploymentLayer := {}
  deriving DecidableEq

namespace LayoutLayer

def on (l : LayoutLayer) (x : Layout) : Layout where
  nodesX := l.nodesX.getD x.nodesX
  nodesY := l.nodesY.getD x.nodesY

def read? (m : Manner) (d : Datum) : Option LayoutLayer := do
  let fs ← d.fields? m ["nodes_x", "nodes_y"]
  return ⟨← fs.given? "nodes_x" Datum.byte?, ← fs.given? "nodes_y" Datum.byte?⟩

end LayoutLayer

namespace ParametersLayer

def on (l : ParametersLayer) (x : Parameters) : Parameters where
  grid := l.grid.on x.grid
  activityMin := l.activityMin.getD x.activityMin
  activityMax := l.activityMax.getD x.activityMax
  commonWeight := l.commonWeight.getD x.commonWeight
  motionWeight := l.motionWeight.getD x.motionWeight
  rangingWeight := l.rangingWeight.getD x.rangingWeight
  roadProximity := l.roadProximity.getD x.roadProximity
  commonTrickle := l.commonTrickle.getD x.commonTrickle
  motionTrickle := l.motionTrickle.getD x.motionTrickle
  rangingTrickle := l.rangingTrickle.getD x.rangingTrickle
  roadTrickle := l.roadTrickle.getD x.roadTrickle
  decayFactor := l.decayFactor.getD x.decayFactor
  possibleRoadside := l.possibleRoadside.getD x.possibleRoadside
  possibleInland := l.possibleInland.getD x.possibleInland
  detectionRoadside := l.detectionRoadside.getD x.detectionRoadside
  detectionInland := l.detectionInland.getD x.detectionInland
  concernDwell := l.concernDwell.getD x.concernDwell
  alarmDwell := l.alarmDwell.getD x.alarmDwell
  reinforcementPeriod := l.reinforcementPeriod.getD x.reinforcementPeriod
  hyperactivityWindow := l.hyperactivityWindow.getD x.hyperactivityWindow
  hyperactivityMinutes := l.hyperactivityMinutes.getD x.hyperactivityMinutes
  nodeSeparationCm := l.nodeSeparationCm.getD x.nodeSeparationCm
  offsetScaleCm := l.offsetScaleCm.getD x.offsetScaleCm

def read? (m : Manner) (d : Datum) : Option ParametersLayer := do
  let fs ← d.fields? m Parameters.fieldNames
  let table := Datum.list? Datum.single?
  return {
    grid := ← fs.optional "grid" (LayoutLayer.read? m) {}
    activityMin := ← fs.given? "av_min" Datum.single?
    activityMax := ← fs.given? "av_max" Datum.single?
    commonWeight := ← fs.given? "common_weight" Datum.single?
    motionWeight := ← fs.given? "motion_weight" Datum.single?
    rangingWeight := ← fs.given? "ranging_weight" Datum.single?
    roadProximity := ← fs.given? "road_proximity" table
    commonTrickle := ← fs.given? "common_trickle" Datum.single?
    motionTrickle := ← fs.given? "motion_trickle" Datum.single?
    rangingTrickle := ← fs.given? "ranging_trickle" Datum.single?
    roadTrickle := ← fs.given? "road_trickle" table
    decayFactor := ← fs.given? "decay_factor" Datum.single?
    possibleRoadside := ← fs.given? "possible_threshold_roadside" Datum.single?
    possibleInland := ← fs.given? "possible_threshold_inland" Datum.single?
    detectionRoadside := ← fs.given? "detection_threshold_roadside" Datum.single?
    detectionInland := ← fs.given? "detection_threshold_inland" Datum.single?
    concernDwell := ← fs.given? "concern_dwell_s" word32?
    alarmDwell := ← fs.given? "alarm_dwell_s" word32?
    reinforcementPeriod := ← fs.given? "reinforcement_period_s" word32?
    hyperactivityWindow := ← fs.given? "hyperactivity_window" word64?
    hyperactivityMinutes := ← fs.given? "hyperactivity_threshold_minutes" Datum.single?
    nodeSeparationCm := ← fs.given? "node_separation_cm" Datum.word?
    offsetScaleCm := ← fs.given? "offset_scale_cm" Datum.word? }

end ParametersLayer

namespace DeploymentLayer

def on (l : DeploymentLayer) (x : Deployment) : Deployment where
  nodeCapacity := l.nodeCapacity.getD x.nodeCapacity
  sensorCapacity := l.sensorCapacity.getD x.sensorCapacity
  pagePoolCapacity := l.pagePoolCapacity.getD x.pagePoolCapacity
  sampleQueueCapacity := l.sampleQueueCapacity.getD x.sampleQueueCapacity
  sensorErrorCapacity := l.sensorErrorCapacity.getD x.sensorErrorCapacity
  pagePeriodMs := l.pagePeriodMs.getD x.pagePeriodMs

def read? (m : Manner) (d : Datum) : Option DeploymentLayer := do
  let fs ← d.fields? m Deployment.fieldNames
  return {
    nodeCapacity := ← fs.given? "node_capacity" word64?
    sensorCapacity := ← fs.given? "sensor_capacity" word64?
    pagePoolCapacity := ← fs.given? "page_pool_capacity" word64?
    sampleQueueCapacity := ← fs.given? "sample_queue_capacity" word64?
    sensorErrorCapacity := ← fs.given? "sensor_error_capacity" word64?
    pagePeriodMs := ← fs.given? "page_period_ms" word64? }

end DeploymentLayer

namespace SettingsLayer

def on (l : SettingsLayer) (x : Settings) : Settings where
  algorithm := l.algorithm.on x.algorithm
  gateway := l.gateway.on x.gateway

def read? (m : Manner) (d : Datum) : Option SettingsLayer := do
  let fs ← d.fields? m ["algorithm", "gateway"]
  return {
    algorithm := ← fs.optional "algorithm" (ParametersLayer.read? m) {}
    gateway := ← fs.optional "gateway" (DeploymentLayer.read? m) {} }

/-- What the variables give: four fields at most, and each only where its variable can be read. -/
def ofEnvironment (environment : String → Option String) : SettingsLayer where
  algorithm := {
    decayFactor := (environment "ROADWATCH_DECAY_FACTOR").bind fun text =>
      real? .single text.toList
    concernDwell := (environment "ROADWATCH_CONCERN_DWELL_S").bind fun text =>
      natural? (UInt32.size - 1) text.toList
    alarmDwell := (environment "ROADWATCH_ALARM_DWELL_S").bind fun text =>
      natural? (UInt32.size - 1) text.toList }
  gateway := {
    pagePeriodMs := (environment "ROADWATCH_PAGE_PERIOD_MS").bind fun text =>
      natural? (UInt64.size - 1) text.toList }

end SettingsLayer

/-! A typed value is read as a layer on the tuned one: so is each of its fields, one after another.
-/

theorem bind_eq_map_bind {α β γ δ : Type} {x : Option α} {y : Option β} {e : β → α}
    {k : α → Option γ} {l : β → Option δ} {f : δ → γ} (hx : x = y.map e)
    (hk : ∀ b, k (e b) = (l b).map f) : x.bind k = (y.bind l).map f := by
  rw [hx, Option.bind_map, Option.map_bind]
  exact congrArg y.bind (funext hk)

theorem Layout.read?_eq (m : Manner) (d : Datum) :
    Layout.read? m d = (LayoutLayer.read? m d).map (·.on Tuned.grid) := by
  refine bind_eq_map_bind Option.map_id'.symm fun fs => ?_
  iterate 2 refine bind_eq_map_bind (fs.optional_eq_map_given? _ _ _) fun _ => ?_
  rfl

theorem Parameters.read?_eq (m : Manner) (d : Datum) :
    Parameters.read? m d = (ParametersLayer.read? m d).map (·.on {}) := by
  have grid (fs : Fields) : fs.optional "grid" (Layout.read? m) Tuned.grid =
      (fs.optional "grid" (LayoutLayer.read? m) {}).map (·.on Tuned.grid) := by
    rw [funext (Layout.read?_eq m)]
    exact fs.optional_map "grid" (LayoutLayer.read? m) (·.on Tuned.grid) {}
  refine bind_eq_map_bind Option.map_id'.symm fun fs => ?_
  refine bind_eq_map_bind (grid fs) fun _ => ?_
  -- The grid is a layer itself; each of the other fields is one value.
  iterate 22 refine bind_eq_map_bind (fs.optional_eq_map_given? _ _ _) fun _ => ?_
  rfl

theorem Deployment.read?_eq (m : Manner) (d : Datum) :
    Deployment.read? m d = (DeploymentLayer.read? m d).map (·.on {}) := by
  refine bind_eq_map_bind Option.map_id'.symm fun fs => ?_
  iterate 6 refine bind_eq_map_bind (fs.optional_eq_map_given? _ _ _) fun _ => ?_
  rfl

namespace Settings

theorem read?_eq (m : Manner) (d : Datum) :
    read? m d = (SettingsLayer.read? m d).map (·.on {}) := by
  have algorithm (fs : Fields) : fs.optional "algorithm" (Parameters.read? m) {} =
      (fs.optional "algorithm" (ParametersLayer.read? m) {}).map (·.on {}) := by
    rw [funext (Parameters.read?_eq m)]
    exact fs.optional_map "algorithm" (ParametersLayer.read? m) (·.on {}) {}
  have gateway (fs : Fields) : fs.optional "gateway" (Deployment.read? m) {} =
      (fs.optional "gateway" (DeploymentLayer.read? m) {}).map (·.on {}) := by
    rw [funext (Deployment.read?_eq m)]
    exact fs.optional_map "gateway" (DeploymentLayer.read? m) (·.on {}) {}
  refine bind_eq_map_bind Option.map_id'.symm fun fs => ?_
  refine bind_eq_map_bind (algorithm fs) fun _ => ?_
  exact bind_eq_map_bind (gateway fs) fun _ => rfl

theorem override_eq (s : Surroundings) (x : Settings) :
    override s x = (SettingsLayer.ofEnvironment s.environment).on x := rfl

theorem parse?_eq (text : String) :
    parse? text =
      ((Toml.parse? text).bind (SettingsLayer.read? .surplus)).map (·.on {}) := by
  rw [parse?, funext (read?_eq .surplus), Option.map_bind]
  rfl

theorem parse?_empty : parse? "" = some {} := by decide +kernel

variable {s : Surroundings} {path? : Option String} {text : String} {x : Settings}

theorem resolve_of_load (loaded : load s (path?.getD defaultPath) = .ok (some x)) :
    resolve s path? = validated x := by
  cases path? <;> rw [Option.getD] at loaded <;> rw [resolve, loaded] <;> rfl

theorem resolve_of_error {e : SettingsError} (failed : load s (path?.getD defaultPath) = .error e) :
    resolve s path? = .error e := by
  cases path? <;> rw [Option.getD] at failed <;> rw [resolve, failed] <;> rfl

theorem load_of_parse? {path : String} (there : s.file path = .text text)
    (parsed : parse? text = some x) : load s path = .ok (some (override s x)) := by
  simp only [load, there, parsed]

theorem load_of_malformed {path : String} (there : s.file path = .text text)
    (malformed : parse? text = none) : load s path = .error .parse := by
  simp only [load, there, malformed]

theorem load_of_unreadable {path : String} (there : s.file path = .unreadable) :
    load s path = .error (.read path) := by
  simp only [load, there]

theorem resolve_of_missing {named : String} (missing : s.file named = .missing) :
    resolve s (some named) = .error (.notFound named) := by
  simp only [resolve, load, missing]
  rfl

theorem resolve_none_of_missing (missing : s.file defaultPath = .missing) :
    resolve s none = resolve { s with file := fun _ => .text "" } none := by
  have empty : resolve { s with file := fun _ => .text "" } none = validated (override s {}) :=
    resolve_of_load (load_of_parse? rfl parse?_empty)
  rw [empty]
  simp only [resolve, load, missing]
  rfl

/-- The tuned settings under the layer of the file and, above it, the four variables are in force
when they are valid. A file that is asked for must be there; the default one counts as empty when it
is not. -/
theorem resolve_layers (s : Surroundings) (path? : Option String) :
    let path := path?.getD defaultPath
    (∀ text d file, s.file path = .text text → Toml.parse? text = some d →
      SettingsLayer.read? .surplus d = some file →
        let x := (SettingsLayer.ofEnvironment s.environment).on (file.on {})
        (x.algorithm.validate = .ok () → resolve s path? = .ok x) ∧
        ∀ fault, x.algorithm.validate = .error fault → resolve s path? = .error (.invalid fault)) ∧
    (∀ text, s.file path = .text text →
      (Toml.parse? text).bind (SettingsLayer.read? .surplus) = none →
        resolve s path? = .error .parse) ∧
    (s.file path = .unreadable → resolve s path? = .error (.read path)) ∧
    (path? = some path → s.file path = .missing → resolve s path? = .error (.notFound path)) ∧
    (path? = none → s.file path = .missing →
      resolve s path? = resolve { s with file := fun _ => .text "" } path?) ∧
    ∀ m, Layout.read? m (.record []) = some ({} : Parameters).grid ∧
      Parameters.read? m (.record []) = some {} ∧ Deployment.read? m (.record []) = some {} ∧
      Settings.read? m (.record []) = some {} := by
  intro path
  refine ⟨fun text d file there parsed given => ?_, fun text there malformed => ?_,
    fun there => ?_, fun named missing => ?_, fun unnamed missing => ?_,
    fun m => ⟨rfl, rfl, rfl, rfl⟩⟩
  · intro x
    have merged : parse? text = some (file.on {}) := by
      rw [parse?_eq, parsed, Option.bind_some, given, Option.map_some]
    have outcome : resolve s path? = validated x := by
      rw [resolve_of_load (load_of_parse? there merged), override_eq]
    refine ⟨fun valid => ?_, fun fault invalid => ?_⟩
    · rw [outcome, validated, valid]
    · rw [outcome, validated, invalid]
  · exact resolve_of_error (load_of_malformed there (by rw [parse?_eq, malformed, Option.map_none]))
  · exact resolve_of_error (load_of_unreadable there)
  · rw [named]
    exact resolve_of_missing missing
  · subst unnamed
    exact resolve_none_of_missing missing

def partialFile : String :=
  "[algorithm]\nalarm_dwell_s = 90\n[algorithm.grid]\nnodes_x = 5\n" ++
  "[gateway]\npage_pool_capacity = 20\n"

def partialVariables : String → Option String
  | "ROADWATCH_ALARM_DWELL_S" => some "45"
  | "ROADWATCH_DECAY_FACTOR" => some "fast"
  | _ => none

/-- Three fields come from the file, one of which a variable replaces; the second extent of the grid
and all else is tuned. -/
theorem resolve_layers_partial :
    resolve ⟨fun _ => .text partialFile, partialVariables⟩ (some "site.toml") = .ok {
      algorithm := { grid := ⟨5, 3⟩, alarmDwell := 45 }
      gateway := { pagePoolCapacity := 20 } } := by
  obtain ⟨layered, -⟩ :=
    resolve_layers ⟨fun _ => .text partialFile, partialVariables⟩ (some "site.toml")
  have given : (Toml.parse? partialFile).bind (SettingsLayer.read? .surplus) = some {
      algorithm := { grid := { nodesX := some 5 }, alarmDwell := some 90 }
      gateway := { pagePoolCapacity := some 20 } } := by
    decide +kernel
  obtain ⟨d, parsed, layer⟩ := Option.bind_eq_some_iff.1 given
  have valid := Parameters.validate_eq_ok_iff (p := { grid := ⟨5, 3⟩, alarmDwell := 45 })
  rw [(layered _ d _ rfl parsed layer).1 (valid.2 (by decide +kernel))]
  exact congrArg Except.ok (by decide +kernel)

end Settings

end WildlifeWarning
