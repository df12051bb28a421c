import WildlifeWarning.Scenario
import WildlifeWarning.Session
import WildlifeWarning.Settings
import WildlifeWarning.Text.Json

/-! The command line: replay of a scenario, or a live run on lines of JSON.
What a command prints is a function of its arguments, its surroundings and its input. -/

namespace WildlifeWarning

namespace CommandLine

inductive Command where
  | replay (scenario : String) (config : Option String)
  | run (config : Option String)
  | help
  deriving DecidableEq

inductive UsageError where
  | configNeedsPath
  | unknownOption (flag : String)
  | replayNeedsFile
  | unknownCommand (name : String)
  deriving DecidableEq

def UsageError.message : UsageError → String
  | configNeedsPath => "--config needs a path"
  | unknownOption flag => "unknown option " ++ flag
  | replayNeedsFile => "replay needs a scenario file"
  | unknownCommand name => "unknown command " ++ name

def ofWords (config : Option String) : List String → Except UsageError Command
  | [] | ["help"] => .ok .help
  | ["replay", scenario] => .ok (.replay scenario config)
  | ["replay"] => .error .replayNeedsFile
  | ["run"] => .ok (.run config)
  | other :: _ => .error (.unknownCommand other)

/-- Reads the arguments. A plea for help wins over all that follows it; of two paths the later
counts. -/
def parse (config : Option String) (words : List String) : List String → Except UsageError Command
  | [] => ofWords config words
  | arg :: rest =>
    if arg = "--config" ∨ arg = "-c" then
      match rest with
      | [] => .error .configNeedsPath
      | path :: rest => parse (some path) words rest
    else if arg = "--help" ∨ arg = "-h" then .ok .help
    else if arg.startsWith "-" then .error (.unknownOption arg)
    else parse config (words ++ [arg]) rest

def Command.paths : Command → List String
  | replay scenario config => [scenario, config.getD Settings.defaultPath]
  | run config => [config.getD Settings.defaultPath]
  | help => []

def ofArguments (args : List String) : Except UsageError Command := parse none [] args

def usage : List String :=
  ["roadwatch – wildlife detection gateway",
    "",
    "  roadwatch replay <scenario.toml> [--config <path>]",
    "  roadwatch run [--config <path>]",
    "",
    "  Configuration defaults to " ++ Settings.defaultPath ++ " when present."]

def padLeft (width : Nat) (s : String) : String :=
  String.ofList (List.replicate (width - s.length) ' ') ++ s

def padRight (width : Nat) (s : String) : String :=
  s ++ String.ofList (List.replicate (width - s.length) ' ')

def levelText : Level → String
  | .idle => "idle"
  | .concern => "CONCERN"
  | .alarm => "ALARM"

def functionText : LedFunction → String
  | .off => "Off"
  | .blinking => "Blinking"
  | .solid => "Solid"

def colourText : LedColour → String
  | .yellow => "Yellow"
  | .red => "Red"

def frameText (c : IndicatorCommand) : String :=
  " ".intercalate (c.meshFrame.toList.map fun b => String.ofList (Hex.byte .upper b))

def commandText (c : IndicatorCommand) : String :=
  "node " ++ padLeft 3 (toString c.node.toNat) ++ " → " ++ padRight 8 (levelText c.level) ++
    " (" ++ functionText c.function ++ " " ++ colourText c.colour ++ ")  frame " ++ frameText c

def timelineLine (entry : TimedCommand) : String :=
  "  " ++ padLeft 6 (toString entry.second ++ "s") ++ "  " ++ commandText entry.command

structure Reply where
  lines : List String
  code : Nat
  deriving DecidableEq

def failure (printed : List String) (message : String) : Reply :=
  ⟨printed ++ ["Error: " ++ message], 1⟩

def gateway (s : Surroundings) (config : Option String) : Except String Gateway :=
  match Settings.resolve s config with
  | .error e => .error e.message
  | .ok settings =>
    match Gateway.build settings.algorithm settings.gateway with
    | .error fault => .error fault.message
    | .ok g => .ok g

/-- The scenario in a file. A message ends where the cause would follow, as for the settings. -/
def scenario (s : Surroundings) (path : String) : Except String Scenario :=
  match s.file path with
  | .text text =>
    match Scenario.parse? text with
    | some scenario => .ok scenario
    | none => .error "Failed to parse scenario: "
  | _ => .error ("Failed to read scenario at " ++ path ++ ": ")

def replay (s : Surroundings) (path : String) (config : Option String) : Reply :=
  match scenario s path with
  | .error message => failure [] message
  | .ok script =>
    match gateway s config with
    | .error message => failure [] message
    | .ok g =>
      let title := "  Replaying " ++ path ++ " (" ++ toString script.actions.length ++ " steps, " ++
        toString script.duration ++ " s simulated)"
      match script.replay g with
      | (.error fault, _) => failure [title] fault.message
      | (.ok timeline, g) =>
        ⟨title :: timeline.map timelineLine ++
          ["", "  ✓ " ++ toString timeline.length ++ " command(s), " ++
            toString g.registry.nodes.length ++ " node(s) provisioned"], 0⟩

def message? (line : String) : Option Stimulus :=
  (Json.parse? line).bind <| Datum.tagged? .plain "type" [
    ("sensor", fun m d => (SensorEvent.read? m d).map .sensor),
    ("position", fun m d => (Placement.read? m d).map .placement),
    ("ack", fun m d => (Acknowledgement.read? m d).map .acknowledgement)]

def liveLine (c : IndicatorCommand) : String := "  " ++ commandText c

/-- A live run whose input ends before a second has passed. Lines that are no message are
skipped. -/
def run (s : Surroundings) (config : Option String) (input : List String) : Reply :=
  match gateway s config with
  | .error message => failure [] message
  | .ok g =>
    let turns := (input.filterMap message?).map Turn.stimulus
    let (result, session) := Session.run (turns ++ [.shutdown]) ⟨g, #[]⟩
    let printed := session.sent.toList.map liveLine
    match result with
    | .ok () => ⟨printed, 0⟩
    | .error fault => failure printed fault.message

def respond (s : Surroundings) (input : List String) (args : List String) : Reply :=
  match ofArguments args with
  | .error e => ⟨("Usage error: " ++ e.message) :: usage, 2⟩
  | .ok .help => ⟨usage, 0⟩
  | .ok (.replay path config) => replay s path config
  | .ok (.run config) => run s config input

end CommandLine

end WildlifeWarning
