import WildlifeWarning.Fault

/-! The carousel of pages that share the broadcast slot.
Each slot holds one copy of a page. Every channel period airs the next occupied slot, so a page with
several copies is on air more often. Senders ask for changes by tag. -/

namespace WildlifeWarning

structure PageCopy where
  tag : PageTag
  payload : Payload
  deriving DecidableEq

inductive Request where
  /-- Queue so many copies, all or none. -/
  | broadcast (tag : PageTag) (payload : Payload) (replicas : Nat)
  /-- Drop all copies under the tag. -/
  | cancel (tag : PageTag)
  /-- Overwrite all copies under the tag where they are. -/
  | replace (tag : PageTag) (payload : Payload)
  deriving DecidableEq

structure Carousel where
  slots : List (Option PageCopy)
  /-- The slot aired last. -/
  cursor : Nat := 0
  outgoing : Payload := Payload.silence
  deriving DecidableEq

namespace Carousel

def empty (capacity : Nat) : Carousel := { slots := List.replicate capacity none }

def capacity (c : Carousel) : Nat := c.slots.length

def copies (c : Carousel) : List PageCopy := c.slots.filterMap id

def occupied (c : Carousel) : Nat := c.copies.length

def count (c : Carousel) (tag : PageTag) : Nat := c.copies.countP fun copy => copy.tag == tag

def fill (copy : PageCopy) : Nat → List (Option PageCopy) → List (Option PageCopy)
  | 0, slots => slots
  | _, [] => []
  | n + 1, none :: rest => some copy :: fill copy n rest
  | n + 1, slot :: rest => slot :: fill copy (n + 1) rest

/-- Queues copies. On an empty carousel the page is on air at once. -/
def add (c : Carousel) (tag : PageTag) (payload : Payload) (replicas : Nat) :
    Except Fault Carousel :=
  if c.capacity - c.occupied < replicas then
    .error (.capacityExhausted "page pool" c.capacity)
  else
    let filled := { c with slots := fill ⟨tag, payload⟩ replicas c.slots }
    if c.occupied = 0 ∧ 0 < replicas then .ok { filled with cursor := 0, outgoing := payload }
    else .ok filled

def dropTag (tag : PageTag) (slot : Option PageCopy) : Option PageCopy :=
  slot.filter fun copy => copy.tag ≠ tag

/-- Drops the copies of a tag. An empty carousel falls silent; else the page on air stays on air
until the next period. -/
def remove (c : Carousel) (tag : PageTag) : Carousel :=
  let removed := { c with slots := c.slots.map (dropTag tag) }
  if removed.occupied = 0 then { removed with outgoing := Payload.silence } else removed

def overwrite (tag : PageTag) (payload : Payload) (slot : Option PageCopy) : Option PageCopy :=
  slot.map fun copy => if copy.tag = tag then ⟨tag, payload⟩ else copy

def current? (c : Carousel) : Option PageCopy := (c.slots[c.cursor]?).join

def replace (c : Carousel) (tag : PageTag) (payload : Payload) : Carousel :=
  let onAir := match c.current? with
    | some copy => copy.tag == tag
    | none => false
  { c with
    slots := c.slots.map (overwrite tag payload)
    outgoing := if onAir then payload else c.outgoing }

/-- The slots in the order in which they are tried: from the one after the cursor round to the
cursor itself. -/
def order (c : Carousel) : List Nat :=
  (List.range c.capacity).map fun step => (c.cursor + (step + 1)) % c.capacity

def rotate (c : Carousel) : Carousel :=
  match c.order.findSome? fun i => ((c.slots[i]?).join).map fun copy => (i, copy.payload) with
  | some (i, payload) => { c with cursor := i, outgoing := payload }
  | none => { c with outgoing := Payload.silence }

def rotations : Nat → Carousel → List Payload × Carousel
  | 0, c => ([], c)
  | n + 1, c =>
    let c := c.rotate
    let (aired, last) := rotations n c
    (c.outgoing :: aired, last)

def handle (c : Carousel) : Request → Except Fault Carousel
  | .broadcast tag payload replicas => c.add tag payload replicas
  | .cancel tag => .ok (c.remove tag)
  | .replace tag payload => .ok (c.replace tag payload)

/-- Does what is asked, in order, up to the first request that does not fit. -/
def serve (c : Carousel) : List Request → Except Fault Unit × Carousel
  | [] => (.ok (), c)
  | request :: rest =>
    match c.handle request with
    | .ok next => next.serve rest
    | .error fault => (.error fault, c)

/-- The requests that `serve` comes to, the refused one last. -/
def attempted (c : Carousel) : List Request → List Request
  | [] => []
  | request :: rest =>
    request :: match c.handle request with
      | .ok next => next.attempted rest
      | .error _ => []

@[simp] theorem length_fill (copy : PageCopy) (n : Nat) (slots : List (Option PageCopy)) :
    (fill copy n slots).length = slots.length := by
  fun_induction fill copy n slots <;> simp_all

@[simp] theorem capacity_remove (c : Carousel) (tag : PageTag) :
    (c.remove tag).capacity = c.capacity := by
  simp only [remove, capacity]
  split <;> simp

theorem slots_remove (c : Carousel) (tag : PageTag) :
    (c.remove tag).slots = c.slots.map (dropTag tag) := by
  simp only [remove]
  split <;> rfl

theorem copies_remove (c : Carousel) (tag : PageTag) :
    (c.remove tag).copies = c.copies.filter fun copy => copy.tag ≠ tag := by
  simp only [copies, slots_remove]
  generalize c.slots = s
  induction s with
  | nil => rfl
  | cons slot rest ih =>
    cases slot with
    | none => simpa [dropTag] using ih
    | some copy =>
      by_cases same : copy.tag = tag <;>
        simp [dropTag, Option.filter, same] <;> simpa using ih

end Carousel

end WildlifeWarning
