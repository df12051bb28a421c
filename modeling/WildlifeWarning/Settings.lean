import WildlifeWarning.Schema
import WildlifeWarning.Text.Toml

/-! Settings in layers: the defaults, over them the fields that a file names, over those the
variables of the environment that can be read. The outcome is validated. -/

namespace WildlifeWarning

inductive FileContent where
  | missing
  /-- It is there and cannot be read as text. -/
  | unreadable
  | text (s : String)
  deriving DecidableEq

structure Surroundings where
  file : String → FileContent
  environment : String → Option String

structure Settings where
  algorithm : Parameters := {}
  gateway : Deployment := {}
  deriving DecidableEq

inductive SettingsError where
  | read (path : String)
  | parse
  | notFound (path : String)
  | invalid (fault : Fault)
  deriving DecidableEq

namespace SettingsError

/-- The wording, up to the cause where that comes from the file system or the reader of the file. -/
def message : SettingsError → String
  | read path => "Failed to read config at " ++ path ++ ": "
  | parse => "Failed to parse config: "
  | notFound path => "Config file " ++ path ++ " not found"
  | invalid fault => fault.message

end SettingsError

namespace Settings

def defaultPath : String := "roadwatch.toml"

def read? (m : Manner) (d : Datum) : Option Settings := do
  let fs ← d.fields? m ["algorithm", "gateway"]
  return {
    algorithm := ← fs.optional "algorithm" (Parameters.read? m) {}
    gateway := ← fs.optional "gateway" (Deployment.read? m) {} }

def parse? (text : String) : Option Settings := (Toml.parse? text).bind (read? .surplus)

/-- The variable's value where it is set and can be read, else what stood before. -/
def overriding {α : Type} (s : Surroundings) (name : String) (read? : List Char → Option α)
    (before : α) : α :=
  ((s.environment name).bind fun text => read? text.toList).getD before

def variableNames : List String :=
  ["ROADWATCH_DECAY_FACTOR", "ROADWATCH_CONCERN_DWELL_S", "ROADWATCH_ALARM_DWELL_S",
    "ROADWATCH_PAGE_PERIOD_MS"]

def override (s : Surroundings) (settings : Settings) : Settings where
  algorithm := { settings.algorithm with
    decayFactor := overriding s "ROADWATCH_DECAY_FACTOR" (real? .single)
      settings.algorithm.decayFactor
    concernDwell := overriding s "ROADWATCH_CONCERN_DWELL_S" (natural? (UInt32.size - 1))
      settings.algorithm.concernDwell
    alarmDwell := overriding s "ROADWATCH_ALARM_DWELL_S" (natural? (UInt32.size - 1))
      settings.algorithm.alarmDwell }
  gateway := { settings.gateway with
    pagePeriodMs := overriding s "ROADWATCH_PAGE_PERIOD_MS" (natural? (UInt64.size - 1))
      settings.gateway.pagePeriodMs }

/-- The settings of a file with the variables over them; none if there is no such file. They are not
validated. -/
def load (s : Surroundings) (path : String) : Except SettingsError (Option Settings) :=
  match s.file path with
  | .missing => .ok none
  | .unreadable => .error (.read path)
  | .text text =>
    match parse? text with
    | some settings => .ok (some (settings.override s))
    | none => .error .parse

def validated (settings : Settings) : Except SettingsError Settings :=
  match settings.algorithm.validate with
  | .ok () => .ok settings
  | .error fault => .error (.invalid fault)

/-- The settings in force. A file that is asked for must be there; without one the default file
counts if it is there. -/
def resolve (s : Surroundings) (path? : Option String) : Except SettingsError Settings := do
  match path? with
  | some path =>
    match ← load s path with
    | some settings => validated settings
    | none => throw (.notFound path)
  | none =>
    let settings ← load s defaultPath
    validated (settings.getD (override s {}))

end Settings

end WildlifeWarning
