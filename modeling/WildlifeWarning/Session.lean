import WildlifeWarning.Gateway.Basic

/-! The run of a gateway on its turns: messages, seconds and channel periods, one at a time, in
whatever order they come. After each turn the commands that it gave are sent on. -/

namespace WildlifeWarning

inductive Turn where
  | stimulus (s : Stimulus)
  | shutdown
  deriving DecidableEq

structure Session where
  gateway : Gateway
  sent : Array IndicatorCommand := #[]
  deriving DecidableEq

namespace Session

def forward (s : Session) : Session :=
  let (commands, gateway) := s.gateway.drain
  ⟨gateway, s.sent ++ commands.toArray⟩

/-- The gateway takes a stimulus. A fault ends the run before anything is sent on. -/
def take (stimulus : Stimulus) (s : Session) : Except Fault Unit × Session :=
  match (Gateway.on stimulus).after s.gateway with
  | (.ok (), gateway) => (.ok (), forward { s with gateway })
  | (.error fault, gateway) => (.error fault, { s with gateway })

/-- All turns up to a shutdown, a fault or the end of the messages. -/
def run : List Turn → Session → Except Fault Unit × Session
  | [], s => (.ok (), s)
  | .shutdown :: _, s => (.ok (), s)
  | .stimulus stimulus :: rest, s =>
    match s.take stimulus with
    | (.ok (), s) => run rest s
    | (.error fault, s) => (.error fault, s)

/-- The turns that the clock gives after time `start` up to time `stop`, in milliseconds: a second
at every multiple of 1000, a channel period at every multiple of `period`. -/
def ticks (period start stop : Nat) : List Turn :=
  let periods (a b : Nat) : List Turn :=
    List.replicate (b / period - a / period) (.stimulus .pagePeriod)
  let marks := (List.range (stop / 1000 - start / 1000)).map fun k => (start / 1000 + k + 1) * 1000
  marks.flatMap (fun mark =>
    periods (max start (mark - 1000)) mark ++ [.stimulus .second]) ++
    periods (max start (stop / 1000 * 1000)) stop

inductive Cue where
  | turn (t : Turn)
  | wait (ms : Nat)
  deriving DecidableEq

/-- The turns of a script that begins at time `now`; only waiting takes time. -/
def turns (period : Nat) : List Cue → Nat → List Turn
  | [], _ => []
  | .turn t :: rest, now => t :: turns period rest now
  | .wait ms :: rest, now => ticks period now (now + ms) ++ turns period rest (now + ms)

/-- Runs a gateway on a script, after which there are no more messages. -/
def play (g : Gateway) (script : List Cue) : Except Fault Unit × Session :=
  run (turns (max 1 g.deployment.pagePeriodMs) script 0) ⟨g, #[]⟩

end Session

end WildlifeWarning
