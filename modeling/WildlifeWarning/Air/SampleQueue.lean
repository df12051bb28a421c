import WildlifeWarning.Air.Carousel
import WildlifeWarning.Page.Report

/-! Sensor samples on their way to the monitoring application, oldest first.
Only the front is on air, in two copies, until it is acknowledged. A full queue sheds its front. -/

namespace WildlifeWarning

structure Sample where
  tag : PageTag
  messageId : UInt8
  payload : Payload
  deriving DecidableEq

def Sample.replicas : Nat := 2

structure SampleQueue where
  capacity : Nat
  samples : List Sample := []
  nextId : UInt8 := 0
  deriving DecidableEq

namespace SampleQueue

/-- A queue holds one sample at least. -/
def ofCapacity (capacity : Nat) : SampleQueue := { capacity := max 1 capacity }

def front? (q : SampleQueue) : Option Sample := q.samples.head?

def airFront (q : SampleQueue) : List Request :=
  match q.front? with
  | some sample => [.broadcast sample.tag sample.payload Sample.replicas]
  | none => []

/-- Appends a sample. It goes on air if it comes to the front; into a full queue it comes at the
cost of the front. -/
def push (q : SampleQueue) (report : Report) : SampleQueue × List Request :=
  let sample : Sample := ⟨report.tag, q.nextId, report.page q.nextId⟩
  let q := { q with nextId := q.nextId + 1 }
  match q.samples with
  | [] =>
    let q := { q with samples := [sample] }
    (q, q.airFront)
  | front :: rest =>
    if q.capacity ≤ q.samples.length then
      let q := { q with samples := rest ++ [sample] }
      (q, .cancel front.tag :: q.airFront)
    else ({ q with samples := q.samples ++ [sample] }, [])

def acknowledge (q : SampleQueue) (a : Acknowledgement) : Option (SampleQueue × List Request) :=
  match q.samples with
  | [] => none
  | front :: rest =>
    if front.tag = a.page ∧ front.messageId = a.messageId then
      let q := { q with samples := rest }
      some (q, .cancel front.tag :: q.airFront)
    else none

end SampleQueue

end WildlifeWarning
