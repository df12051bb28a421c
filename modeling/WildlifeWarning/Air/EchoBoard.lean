import WildlifeWarning.Air.Carousel
import WildlifeWarning.Keyed

/-! Pages of which only the latest counts, one slot for each subject, all under one tag.
A published slot is on air until it is acknowledged and comes back with the next publication. Ids of
slots on air differ, so an acknowledgment names one of them. -/

namespace WildlifeWarning

structure EchoSlot (κ : Type) where
  key : κ
  messageId : UInt8
  payload : Payload
  onAir : Bool
  deriving DecidableEq

structure EchoBoard (κ : Type) where
  name : String
  tag : PageTag
  replicas : Nat
  capacity : Nat
  slots : List (EchoSlot κ) := []
  nextId : UInt8 := 0
  deriving DecidableEq

namespace EchoBoard

variable {κ : Type} [DecidableEq κ]

def find? (b : EchoBoard κ) (key : κ) : Option (EchoSlot κ) :=
  b.slots.find? fun s => s.key == key

def airing (b : EchoBoard κ) : List (EchoSlot κ) := b.slots.filter (·.onAir)

def airAnew (b : EchoBoard κ) : List Request :=
  .cancel b.tag :: b.airing.map fun s => .broadcast b.tag s.payload b.replicas

/-- The id is on air for another subject. -/
def isTaken (b : EchoBoard κ) (key : κ) (id : UInt8) : Bool :=
  b.slots.any fun s => s.key ≠ key && s.onAir && s.messageId == id

/-- The first id from `start` on that is not taken, tried at most `tries` times, and the id after
it. -/
def freeId (taken : UInt8 → Bool) : Nat → UInt8 → UInt8 × UInt8
  | 0, start => (start, start)
  | tries + 1, start =>
    if taken start then freeId taken tries (start + 1) else (start, start + 1)

/-- Stores the page built for a fresh id and puts it on air. If the subject's slot is the only one
on air, its copies are overwritten where they are. A new subject needs room. -/
def publish (b : EchoBoard κ) (key : κ) (build : UInt8 → Payload) :
    Except Fault (EchoBoard κ × List Request) :=
  let known := b.find? key
  if known.isNone ∧ b.capacity ≤ b.slots.length then
    .error (.capacityExhausted b.name b.capacity)
  else
    let alone := known.any (·.onAir) && b.airing.length == 1
    let (id, nextId) := freeId (b.isTaken key) 256 b.nextId
    let payload := build id
    let next :=
      { b with slots := Keyed.store EchoSlot.key b.slots ⟨key, id, payload, true⟩, nextId }
    .ok (next, if alone then [.replace b.tag payload] else next.airAnew)

/-- Takes the first slot on air with this id off the air. -/
def retire (id : UInt8) : List (EchoSlot κ) → List (EchoSlot κ)
  | [] => []
  | s :: rest =>
    if s.onAir && s.messageId == id then { s with onAir := false } :: rest
    else s :: retire id rest

/-- Supersedes the slot that the acknowledgment names; `none` if it names none. -/
def acknowledge (b : EchoBoard κ) (a : Acknowledgement) : Option (EchoBoard κ × List Request) :=
  if a.page = b.tag ∧ b.slots.any (fun s => s.onAir && s.messageId == a.messageId) then
    let next := { b with slots := retire a.messageId b.slots }
    some (next, next.airAnew)
  else none

theorem ofNat_succ_add (start : UInt8) (n : Nat) :
    start + 1 + UInt8.ofNat n = start + UInt8.ofNat (n + 1) := by
  rw [UInt8.add_assoc, UInt8.add_comm 1, UInt8.ofNat_add]
  rfl

/-- The search passes ids that are taken and stops behind the first that is not, unless it has used
up its tries. -/
theorem freeId_cases (taken : UInt8 → Bool) (tries : Nat) (start : UInt8) :
    ∃ skipped ≤ tries, (∀ n < skipped, taken (start + UInt8.ofNat n)) ∧
      (freeId taken tries start).1 = start + UInt8.ofNat skipped ∧
      (skipped < tries → taken (freeId taken tries start).1 = false ∧
        (freeId taken tries start).2 = (freeId taken tries start).1 + 1) := by
  induction tries generalizing start with
  | zero => exact ⟨0, Nat.le_refl 0, by simp, by simp [freeId], by simp⟩
  | succ tries ih =>
    rw [freeId]
    split
    · next busy =>
      obtain ⟨skipped, le, before, stops, next⟩ := ih (start + 1)
      refine ⟨skipped + 1, Nat.succ_le_succ le, fun n lt => ?_, ?_, fun lt => ?_⟩
      · cases n with
        | zero => simpa using busy
        | succ n => exact ofNat_succ_add start n ▸ before n (Nat.lt_of_succ_lt_succ lt)
      · rw [stops, ofNat_succ_add]
      · exact next (Nat.lt_of_succ_lt_succ lt)
    · next idle =>
      exact ⟨0, Nat.zero_le _, by simp, by simp, fun _ => ⟨by simpa using idle, rfl⟩⟩

theorem not_taken_freeId {taken : UInt8 → Bool} {tries : Nat} {start : UInt8}
    (h : ∃ n < tries, taken (start + UInt8.ofNat n) = false) :
    taken (freeId taken tries start).1 = false := by
  obtain ⟨n, lt, free⟩ := h
  obtain ⟨skipped, -, before, -, stops⟩ := freeId_cases taken tries start
  have first : skipped ≤ n := Nat.not_lt.1 fun beyond => by simp [before n beyond] at free
  exact (stops (Nat.lt_of_le_of_lt first lt)).1

end EchoBoard

end WildlifeWarning
