import WildlifeWarning.Air.EchoBoard
import WildlifeWarning.Air.HealthReports
import WildlifeWarning.Air.SampleQueue
import WildlifeWarning.Step

/-! The reporting side of the gateway: one carousel and the senders that share it. -/

namespace WildlifeWarning

structure Airtime where
  carousel : Carousel
  samples : SampleQueue
  indicatorEcho : EchoBoard NodeId
  activityEcho : EchoBoard UInt8
  healthReports : HealthReports
  deriving DecidableEq

namespace Airtime

def transmit (requests : List Request) : Step Airtime Unit :=
  .ofAfter fun air =>
    let (result, carousel) := air.carousel.serve requests
    (result, { air with carousel })

def forward (report : Report) : Step Airtime Unit := do
  let (samples, requests) := (← get).samples.push report
  modify fun air => { air with samples }
  transmit requests

def echoCommand (c : IndicatorCommand) : Step Airtime Unit := do
  match (← get).indicatorEcho.publish c.node (Report.ofCommand c).page with
  | .error fault => throw fault
  | .ok (indicatorEcho, requests) =>
    modify fun air => { air with indicatorEcho }
    transmit requests

def echo (c : Cell) (value : Single) (class_ : Classification) : Step Airtime Unit := do
  match (← get).activityEcho.publish c.code (Report.activity c value class_).page with
  | .error fault => throw fault
  | .ok (activityEcho, requests) =>
    modify fun air => { air with activityEcho }
    transmit requests

def transmitHealth (healthReports : HealthReports) (requests : List Request) :
    Step Airtime Unit :=
  .ofAfter fun air =>
    let (result, carousel) := air.carousel.serve requests
    (result, { air with carousel, healthReports := healthReports.settle result })

def reportHealth (r : HealthReport) : Step Airtime Unit := do
  match (← get).healthReports.report r with
  | .error fault => throw fault
  | .ok (healthReports, requests) => transmitHealth healthReports requests

/-- Hands an acknowledgment to the first sender that has the page it names on air; one that names
none changes nothing. -/
def acknowledge (a : Acknowledgement) : Step Airtime Unit := do
  let air ← get
  match air.samples.acknowledge a with
  | some (samples, requests) =>
    set { air with samples }
    transmit requests
  | none => match air.indicatorEcho.acknowledge a with
    | some (indicatorEcho, requests) =>
      set { air with indicatorEcho }
      transmit requests
    | none => match air.activityEcho.acknowledge a with
      | some (activityEcho, requests) =>
        set { air with activityEcho }
        transmit requests
      | none => match air.healthReports.acknowledge a with
        | some (healthReports, requests) => transmitHealth healthReports requests
        | none => pure ()

end Airtime

end WildlifeWarning
