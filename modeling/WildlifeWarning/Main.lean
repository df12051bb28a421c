import WildlifeWarning.CommandLine

/-! The program: its files, its environment, its input and its clock.
What it answers is settled by `CommandLine`; here that is given what it asks for, and printed. -/

namespace WildlifeWarning.Program

open CommandLine

/-- The content of a file. A path that goes on behind a file, or is too long, leads nowhere; that of
a directory fails in reading, where the error names no file. -/
def content (path : String) : IO FileContent := do
  try
    return .text (← IO.FS.readFile path)
  catch
    | .noFileOrDirectory .. | .inappropriateType (some _) .. | .invalidArgument .. =>
      return .missing
    | _ => return .unreadable

def surroundings (paths : List String) : IO Surroundings := do
  let files ← paths.mapM fun path => return (path, ← content path)
  let settings ← Settings.variableNames.mapM fun name => return (name, ← IO.getEnv name)
  return {
    file := fun path => (files.lookup path).getD .missing
    environment := fun name => (settings.lookup name).join }

def printLines (lines : List String) : IO Unit := do
  let out ← IO.getStdout
  lines.forM out.putStrLn
  out.flush

def finish (reply : Reply) : IO UInt32 := do
  printLines reply.lines
  return UInt32.ofNat reply.code

def takeTurns (g : Gateway) (turns : List Turn) : IO (Except Fault Gateway) := do
  let (result, session) := Session.run turns ⟨g, #[]⟩
  printLines (session.sent.toList.map liveLine)
  return result.map fun () => session.gateway

/-- Milliseconds between two looks at the clock. -/
def patience : UInt32 := 5

/-- Takes lines as they come and seconds and channel periods as they pass, up to the end of the
input or a fault. The turns up to the time `now` are taken; `line` is the line awaited. -/
partial def live (input : IO.FS.Stream) (start : Nat) (now : Nat)
    (line : Task (Except IO.Error String)) (g : Gateway) : IO UInt32 := do
  if ← IO.hasFinished line then
    let text := match line.get with
      | .ok text => text
      | .error _ => ""
    if text.isEmpty then
      return 0
    let turns := (message? text).toList.map Turn.stimulus
    match ← takeTurns g turns with
    | .error fault => finish (failure [] fault.message)
    | .ok g => live input start now (← IO.asTask input.getLine .dedicated) g
  else
    IO.sleep patience
    let later := (← IO.monoMsNow) - start
    match ← takeTurns g (Session.ticks (max 1 g.deployment.pagePeriodMs) now later) with
    | .error fault => finish (failure [] fault.message)
    | .ok g => live input start later line g

def main (args : List String) : IO UInt32 := do
  let paths := match ofArguments args with
    | .ok command => command.paths
    | .error _ => []
  let s ← surroundings paths
  match ofArguments args with
  | .ok (.run config) =>
    match gateway s config with
    | .error message => finish (failure [] message)
    | .ok g =>
      let input ← IO.getStdin
      live input (← IO.monoMsNow) 0 (← IO.asTask input.getLine .dedicated) g
  | _ => finish (respond s [] args)

end WildlifeWarning.Program

def main (args : List String) : IO UInt32 := WildlifeWarning.Program.main args
