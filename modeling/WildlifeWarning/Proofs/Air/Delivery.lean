import WildlifeWarning.Proofs.Air.Headers
import WildlifeWarning.Proofs.Air.OnAir
import WildlifeWarning.Proofs.InTurn

/-! Delivery of samples to a monitoring application that answers what it received.
The air may lose, repeat, reorder and delay acknowledgments; only those of a sample whose id is in
use again come no more. Samples carry one byte of their number, and a cancelled page may stay on air
until the next period, so it is followed which sample the page on air is of. -/

namespace WildlifeWarning

namespace Carousel

/-- The pushed sample that the page at the cursor is of, if the front has the place `front`. -/
def shown? (c : Carousel) (front : Nat) : Option Nat :=
  match c.current? with
  | some copy => if SampleQueue.tags.contains copy.tag then some front else none
  | none => none

/-- The sample that the page on air is of, followed through the requests of one sender. -/
def traced (c : Carousel) (front : Nat) (aired : Option Nat) : List Request → Option Nat
  | [] => aired
  | request :: rest =>
    match c.handle request with
    | .ok next => next.traced front (if c.renews request then next.shown? front else aired) rest
    | .error _ => aired

end Carousel

/-- A page that was on air, and the place among the pushed samples of the one that it is of. -/
structure Receipt where
  sample : Option Nat
  page : Payload
  deriving DecidableEq

def Receipt.acknowledgement (r : Receipt) : Acknowledgement := ⟨⟨r.page.byte 0⟩, r.page.byte 1⟩

structure Delivery where
  queue : SampleQueue
  carousel : Carousel
  pushed : List Sample := []
  aired : Option Nat := none
  receipts : List Receipt := []
  deriving DecidableEq

namespace Delivery

inductive Event where
  | push (report : Report)
  /-- Another sender changes its pages. -/
  | ask (request : Request)
  | period
  /-- The application receives the page on air. -/
  | receive
  /-- Its acknowledgment of what it once received comes in. -/
  | deliver (r : Receipt)
  deriving DecidableEq

def start (samples pages : Nat) : Delivery :=
  { queue := .ofCapacity samples, carousel := .empty pages }

/-- How many of the pushed samples have left the queue: the place of the front. -/
def left (d : Delivery) : Nat := d.pushed.length - d.queue.samples.length

/-- The sample at the place is the front, or was. -/
def reached (d : Delivery) (place : Nat) : Bool :=
  decide (place ≤ d.left) && decide (place < d.pushed.length)

def sample (d : Delivery) (report : Report) : Sample :=
  ⟨report.tag, d.queue.nextId, report.page d.queue.nextId⟩

def onAir (d : Delivery) : Receipt := ⟨d.aired, d.carousel.outgoing⟩

def serve (d : Delivery) (requests : List Request) : Delivery :=
  { d with
    carousel := (d.carousel.serve requests).2
    aired := d.carousel.traced d.left d.aired requests }

def after (d : Delivery) : Event → Delivery
  | .push report =>
    let (queue, requests) := d.queue.push report
    { d with queue, pushed := d.pushed ++ [d.sample report] }.serve requests
  | .ask request => d.serve [request]
  | .period =>
    let carousel := d.carousel.rotate
    { d with carousel, aired := carousel.shown? d.left }
  | .receive => { d with receipts := d.onAir :: d.receipts }
  | .deliver r =>
    match d.queue.acknowledge r.acknowledgement with
    | some (queue, requests) => { d with queue }.serve requests
    | none => d

/-- Samples are pushed under their own tags and other pages asked for under others, each page under
the tag that it begins with. Only what was received is acknowledged, and not any more after the
sample 256 places on, which has the same id, has come to the front. -/
def admits (d : Delivery) : Event → Bool
  | .push report => SampleQueue.tags.contains report.tag
  | .ask request => !SampleQueue.tags.contains request.tag &&
      request.page?.all fun page => page.byte 0 == request.tag.code
  | .period => true
  | .receive => true
  | .deliver r => d.receipts.contains r && r.sample.all fun place => !d.reached (place + 256)

def run (d : Delivery) (events : List Event) : Delivery := inTurn after d events

def permits (d : Delivery) (events : List Event) : Bool := permitsInTurn after admits d events

end Delivery

/-- What the receipt says of its page is so, where `left` samples have left the queue. -/
structure Receipt.Genuine (pushed : List Sample) (left : Nat) (r : Receipt) : Prop where
  sample : ∀ place, r.sample = some place → place ≤ left ∧
    ∃ s, pushed[place]? = some s ∧ r.page = s.payload
  other : r.sample = none → ∀ tag ∈ SampleQueue.tags, r.page.byte 0 ≠ tag.code

theorem Receipt.Genuine.later {pushed : List Sample} {left left' : Nat} {r : Receipt}
    (genuine : r.Genuine pushed left) (further : List Sample) (le : left ≤ left') :
    r.Genuine (pushed ++ further) left' := by
  refine ⟨fun place named => ?_, genuine.other⟩
  obtain ⟨reached, s, found, page⟩ := genuine.sample place named
  refine ⟨Nat.le_trans reached le, s, ?_, page⟩
  rw [List.getElem?_append_left (List.getElem?_eq_some_iff.1 found).1, found]

structure Carousel.Fronts (pushed : List Sample) (left : Nat) (c : Carousel) : Prop where
  tagged : ∀ copy ∈ c.copies, copy.Tagged
  front : ∀ copy ∈ c.copies, copy.tag ∈ SampleQueue.tags →
    ∃ s, pushed[left]? = some s ∧ copy = s.copy

namespace Carousel

variable {pushed : List Sample} {left : Nat} {c d : Carousel} {request : Request}
  {requests : List Request} {aired : Option Nat}

theorem genuine_shown (fronts : c.Fronts pushed left) (current : c.Current) :
    Receipt.Genuine pushed left ⟨c.shown? left, c.outgoing⟩ := by
  rw [current]
  cases on : c.current? with
  | none =>
    simp only [shown?, on, Option.map_none, Option.getD_none]
    exact ⟨fun place named => by contradiction, fun _ => by decide⟩
  | some copy =>
    have member := mem_copies_of_current? on
    simp only [shown?, on, Option.map_some, Option.getD_some]
    split
    · next own =>
      obtain ⟨s, found, rfl⟩ := fronts.front copy member (by simpa using own)
      refine ⟨fun place named => ?_, fun unnamed => by contradiction⟩
      obtain rfl := Option.some.inj named
      exact ⟨Nat.le_refl left, s, found, rfl⟩
    · next foreign =>
      refine ⟨fun place named => by contradiction, fun _ tag among begins => ?_⟩
      have same : copy.tag = tag :=
        PageTag.eq_of_code ((fronts.tagged copy member).symm.trans begins)
      exact foreign (by simpa using same ▸ among)

theorem genuine_handle (handled : c.handle request = .ok d) (fronts : d.Fronts pushed left)
    (genuine : Receipt.Genuine pushed left ⟨aired, c.outgoing⟩) :
    Receipt.Genuine pushed left
      ⟨if c.renews request then d.shown? left else aired, d.outgoing⟩ := by
  obtain ⟨renewed, stays⟩ := outgoing_handle handled
  cases renews : c.renews request with
  | true => exact genuine_shown fronts (renewed renews)
  | false =>
    rw [stays renews]
    exact genuine

structure Followed (pushed : List Sample) (left : Nat) (c : Carousel) (aired : Option Nat) :
    Prop where
  fronts : c.Fronts pushed left
  genuine : Receipt.Genuine pushed left ⟨aired, c.outgoing⟩

theorem followed_request (refused : c.Fronts pushed left)
    (granted : ∀ d, c.handle request = .ok d → d.Fronts pushed left)
    (genuine : Receipt.Genuine pushed left ⟨aired, c.outgoing⟩) :
    (c.serve [request]).2.Followed pushed left (c.traced left aired [request]) := by
  cases handled : c.handle request with
  | ok next =>
    have fronts := granted next handled
    simp only [serve, traced, handled]
    exact ⟨fronts, genuine_handle handled fronts genuine⟩
  | error fault =>
    simp only [serve, traced, handled]
    exact ⟨refused, genuine⟩

theorem followed_ask (foreign : request.tag ∉ SampleQueue.tags)
    (begins : ∀ page, request.page? = some page → page.byte 0 = request.tag.code)
    (followed : c.Followed pushed left aired) :
    (c.serve [request]).2.Followed pushed left (c.traced left aired [request]) := by
  obtain ⟨⟨tagged, front⟩, genuine⟩ := followed
  refine followed_request ⟨tagged, front⟩ (fun next handled => ?_) genuine
  constructor
  · intro copy member
    rcases mem_copies_handle handled member with old | ⟨page, asked, rfl⟩
    · exact tagged copy old
    · exact begins page asked
  · intro copy member own
    rcases mem_copies_handle handled member with old | ⟨page, asked, rfl⟩
    · exact front copy old own
    · exact absurd own foreign

variable {q : SampleQueue}

theorem followed_airFront (front : q.front? = pushed[left]?)
    (headed : ∀ s, q.front? = some s → s.copy.Tagged)
    (tagged : ∀ copy ∈ c.copies, copy.Tagged)
    (bare : ∀ copy ∈ c.copies, copy.tag ∉ SampleQueue.tags)
    (genuine : Receipt.Genuine pushed left ⟨aired, c.outgoing⟩) :
    (c.serve q.airFront).2.Followed pushed left (c.traced left aired q.airFront) := by
  have fronts : c.Fronts pushed left :=
    ⟨tagged, fun copy member own => absurd own (bare copy member)⟩
  unfold SampleQueue.airFront
  cases first : q.front? with
  | none => exact ⟨fronts, genuine⟩
  | some s =>
    refine followed_request fronts (fun next handled => ?_) genuine
    constructor
    · intro copy member
      rcases mem_copies_handle handled member with old | ⟨page, asked, rfl⟩
      · exact tagged copy old
      · obtain rfl := Option.some.inj asked
        exact headed s first
    · intro copy member own
      rcases mem_copies_handle handled member with old | ⟨page, asked, rfl⟩
      · exact absurd own (bare copy old)
      · obtain rfl := Option.some.inj asked
        exact ⟨s, front.symm.trans first, rfl⟩

theorem followed_next {tag : PageTag} (front : q.front? = pushed[left]?)
    (headed : ∀ s, q.front? = some s → s.copy.Tagged)
    (tagged : ∀ copy ∈ c.copies, copy.Tagged)
    (own : ∀ copy ∈ c.copies, copy.tag ∈ SampleQueue.tags → copy.tag = tag)
    (genuine : Receipt.Genuine pushed left ⟨aired, c.outgoing⟩) :
    (c.serve (.cancel tag :: q.airFront)).2.Followed pushed left
      (c.traced left aired (.cancel tag :: q.airFront)) := by
  have left_copies : ∀ copy ∈ (c.remove tag).copies, copy ∈ c.copies ∧ copy.tag ≠ tag := by
    intro copy member
    rw [copies_remove] at member
    simpa using List.mem_filter.1 member
  have tagged' : ∀ copy ∈ (c.remove tag).copies, copy.Tagged :=
    fun copy member => tagged copy (left_copies copy member).1
  have bare : ∀ copy ∈ (c.remove tag).copies, copy.tag ∉ SampleQueue.tags := by
    intro copy member among
    obtain ⟨old, other⟩ := left_copies copy member
    exact other (own copy old among)
  have handled : c.handle (.cancel tag) = .ok (c.remove tag) := rfl
  have fronts : (c.remove tag).Fronts pushed left :=
    ⟨tagged', fun copy member among => absurd among (bare copy member)⟩
  simp only [serve, traced, handled]
  exact followed_airFront front headed tagged' bare (genuine_handle handled fronts genuine)

theorem followed_rotate (fronts : c.Fronts pushed left) :
    c.rotate.Followed pushed left (c.rotate.shown? left) := by
  have same : c.rotate.copies = c.copies := by rw [copies, slots_rotate, copies]
  have fronts' : c.rotate.Fronts pushed left := ⟨same ▸ fronts.tagged, same ▸ fronts.front⟩
  exact ⟨fronts', genuine_shown fronts' (current_rotate c)⟩

end Carousel

namespace Delivery

structure Numbered (place : Nat) (s : Sample) : Prop where
  own : s.tag ∈ SampleQueue.tags
  tagged : s.copy.Tagged
  messageId : s.messageId = UInt8.ofNat place
  header : s.payload.byte 1 = s.messageId

structure Ordered (d : Delivery) : Prop where
  capacity : 0 < d.queue.capacity
  queued : d.queue.samples = d.pushed.drop d.left
  nextId : d.queue.nextId = UInt8.ofNat d.pushed.length
  numbered : ∀ place s, d.pushed[place]? = some s → Numbered place s
  receipts : ∀ r ∈ d.receipts, r.Genuine d.pushed d.left

structure Sound (d : Delivery) : Prop extends Ordered d where
  followed : d.carousel.Followed d.pushed d.left d.aired

/-- What an event does to the queue: it takes nothing from it, or the front, which was received or
is shed for want of room. What is pushed comes last. -/
inductive Departs (d t : Delivery) : Event → Prop where
  | none (event : Event)
      (queue : t.queue.samples = d.queue.samples ++ t.pushed.drop d.pushed.length) :
      Departs d t event
  | retired (r : Receipt) (front : Sample) (queue : d.queue.samples = front :: t.queue.samples)
      (received : r ∈ d.receipts) (sample : r.sample = some d.left)
      (page : r.page = front.payload) : Departs d t (.deliver r)
  | shed (report : Report) (front : Sample) (rest : List Sample)
      (queue : d.queue.samples = front :: rest)
      (pushed : t.queue.samples = rest ++ t.pushed.drop d.pushed.length)
      (full : d.queue.capacity ≤ d.queue.samples.length) : Departs d t (.push report)

variable {d : Delivery} {front : Sample} {rest : List Sample}

theorem sound_start (samples pages : Nat) : (start samples pages).Sound := by
  have none : (start samples pages).carousel.copies = [] := by
    simp [start, Carousel.copies, Carousel.empty]
  have silent : ∀ tag ∈ SampleQueue.tags, Payload.silence.byte 0 ≠ tag.code := by decide
  constructor
  · refine ⟨?_, rfl, rfl, by simp [start], by simp [start]⟩
    simp only [start, SampleQueue.ofCapacity]
    omega
  · exact ⟨⟨by simp [none], by simp [none]⟩, ⟨by simp [start], fun _ => silent⟩⟩

theorem length_queue (ordered : d.Ordered) :
    d.queue.samples.length + d.left = d.pushed.length := by
  have queued := congrArg List.length ordered.queued
  rw [List.length_drop] at queued
  simp only [left] at queued ⊢
  omega

theorem front_eq (ordered : d.Ordered) : d.queue.front? = d.pushed[d.left]? := by
  rw [SampleQueue.front?, ordered.queued, List.head?_drop]

theorem tagged_front (ordered : d.Ordered) : ∀ s, d.queue.front? = some s → s.copy.Tagged := by
  intro s first
  rw [front_eq ordered] at first
  exact (ordered.numbered _ s first).tagged

theorem tag_eq_of_front (sound : d.Sound) (samples : d.queue.samples = front :: rest) :
    ∀ copy ∈ d.carousel.copies, copy.tag ∈ SampleQueue.tags → copy.tag = front.tag := by
  intro copy member among
  obtain ⟨s, found, rfl⟩ := sound.followed.fronts.front copy member among
  rw [← front_eq sound.toOrdered, SampleQueue.front?, samples] at found
  obtain rfl := Option.some.inj found
  rfl

theorem numbered_push (ordered : d.Ordered) {report : Report}
    (own : report.tag ∈ SampleQueue.tags) :
    ∀ place s, (d.pushed ++ [d.sample report])[place]? = some s → Numbered place s := by
  intro place s found
  rcases Nat.lt_trichotomy place d.pushed.length with old | rfl | beyond
  · rw [List.getElem?_append_left old] at found
    exact ordered.numbered place s found
  · rw [List.getElem?_concat_length] at found
    obtain rfl := Option.some.inj found
    exact ⟨own, rfl, ordered.nextId, rfl⟩
  · rw [List.getElem?_eq_none (by simp; omega)] at found
    contradiction

def entered (d : Delivery) (report : Report) (kept : List Sample) : Delivery :=
  { d with
    queue := { d.queue with
      samples := kept ++ [d.sample report]
      nextId := d.queue.nextId + 1 }
    pushed := d.pushed ++ [d.sample report] }

theorem ordered_entered (ordered : d.Ordered) {report : Report}
    (own : report.tag ∈ SampleQueue.tags) {place : Nat} {kept : List Sample}
    (from_ : kept = d.pushed.drop place) (later : d.left ≤ place)
    (bound : place ≤ d.pushed.length) :
    (d.entered report kept).left = place ∧ (d.entered report kept).Ordered := by
  have left : (d.entered report kept).left = place := by
    have length := congrArg List.length from_
    rw [List.length_drop] at length
    simp only [entered, Delivery.left, List.length_append, List.length_singleton]
    omega
  refine ⟨left, ?_⟩
  constructor
  · exact ordered.capacity
  · rw [left, from_]
    exact (List.drop_append_of_le_length bound).symm
  · change d.queue.nextId + 1 = UInt8.ofNat (d.pushed ++ [d.sample report]).length
    rw [ordered.nextId, List.length_append]
    exact (UInt8.ofNat_add _ _).symm
  · exact numbered_push ordered own
  · rw [left]
    intro r member
    exact (ordered.receipts r member).later _ later

theorem genuine_onAir (sound : d.Sound) : d.onAir.Genuine d.pushed d.left := sound.followed.genuine

theorem sound_serve {t : Delivery} {requests : List Request} (ordered : t.Ordered)
    (followed : (t.carousel.serve requests).2.Followed t.pushed t.left
      (t.carousel.traced t.left t.aired requests)) : (t.serve requests).Sound :=
  ⟨⟨ordered.capacity, ordered.queued, ordered.nextId, ordered.numbered, ordered.receipts⟩, followed⟩

theorem drop_pushed (d : Delivery) (report : Report) :
    (d.pushed ++ [d.sample report]).drop d.pushed.length = [d.sample report] := List.drop_left

theorem genuine_entered (sound : d.Sound) (report : Report) {place : Nat} (later : d.left ≤ place) :
    d.onAir.Genuine (d.pushed ++ [d.sample report]) place := (genuine_onAir sound).later _ later

theorem departs_push_first (sound : d.Sound) {report : Report}
    (own : report.tag ∈ SampleQueue.tags) (samples : d.queue.samples = []) :
    (d.after (.push report)).Sound ∧ Departs d (d.after (.push report)) (.push report) := by
  have ordered := sound.toOrdered
  have length := length_queue ordered
  rw [samples, List.length_nil, Nat.zero_add] at length
  have pushed : d.after (.push report) =
      (d.entered report []).serve (d.entered report []).queue.airFront := by
    simp only [after, SampleQueue.push, samples]
    rfl
  obtain ⟨left, ordered'⟩ := ordered_entered ordered own List.drop_length.symm
    (Nat.le_of_eq length) (Nat.le_refl _)
  have bare : ∀ copy ∈ d.carousel.copies, copy.tag ∉ SampleQueue.tags := by
    intro copy member among
    obtain ⟨s, found, -⟩ := sound.followed.fronts.front copy member among
    rw [← front_eq ordered, SampleQueue.front?, samples] at found
    contradiction
  rw [pushed]
  refine ⟨sound_serve ordered' ?_, .none _ ?_⟩
  · refine Carousel.followed_airFront (front_eq ordered') (tagged_front ordered')
      sound.followed.fronts.tagged bare (genuine_entered sound report ?_)
    rw [left, length]
  · rw [samples]
    exact (drop_pushed d report).symm

theorem departs_push_full (sound : d.Sound) {report : Report} (own : report.tag ∈ SampleQueue.tags)
    (samples : d.queue.samples = front :: rest)
    (full : d.queue.capacity ≤ d.queue.samples.length) :
    (d.after (.push report)).Sound ∧ Departs d (d.after (.push report)) (.push report) := by
  have ordered := sound.toOrdered
  have length := length_queue ordered
  rw [samples, List.length_cons] at length
  have pushed : d.after (.push report) = (d.entered report rest).serve
      (.cancel front.tag :: (d.entered report rest).queue.airFront) := by
    simp only [after, SampleQueue.push, samples] at full ⊢
    rw [if_pos full]
    rfl
  have next : rest = d.pushed.drop (d.left + 1) := by
    rw [← List.tail_drop, ← ordered.queued, samples]
    rfl
  obtain ⟨left, ordered'⟩ := ordered_entered ordered own next (Nat.le_succ _) (by omega)
  rw [pushed]
  refine ⟨sound_serve ordered' ?_, .shed report front rest samples ?_ full⟩
  · have same := tag_eq_of_front sound samples
    refine Carousel.followed_next (front_eq ordered') (tagged_front ordered')
      sound.followed.fronts.tagged same (genuine_entered sound report ?_)
    rw [left]
    exact Nat.le_succ _
  · exact congrArg (rest ++ ·) (drop_pushed d report).symm

theorem departs_push_behind (sound : d.Sound) {report : Report}
    (own : report.tag ∈ SampleQueue.tags) (samples : d.queue.samples = front :: rest)
    (room : ¬d.queue.capacity ≤ d.queue.samples.length) :
    (d.after (.push report)).Sound ∧ Departs d (d.after (.push report)) (.push report) := by
  have ordered := sound.toOrdered
  have length := length_queue ordered
  rw [samples, List.length_cons] at length
  have pushed : d.after (.push report) = (d.entered report (front :: rest)).serve [] := by
    simp only [after, SampleQueue.push, samples] at room ⊢
    rw [if_neg room]
    rfl
  have all : front :: rest = d.pushed.drop d.left := samples.symm.trans ordered.queued
  obtain ⟨left, ordered'⟩ := ordered_entered ordered own all (Nat.le_refl _) (by omega)
  rw [pushed]
  refine ⟨sound_serve ordered' ⟨⟨sound.followed.fronts.tagged, ?_⟩, ?_⟩, .none _ ?_⟩
  · intro copy member among
    obtain ⟨s, found, copied⟩ := sound.followed.fronts.front copy member among
    refine ⟨s, ?_, copied⟩
    rw [left]
    exact (List.getElem?_append_left (by omega)).trans found
  · refine genuine_entered sound report ?_
    rw [left]
  · rw [samples]
    exact congrArg (front :: rest ++ ·) (drop_pushed d report).symm

theorem departs_push (sound : d.Sound) {report : Report} (own : report.tag ∈ SampleQueue.tags) :
    (d.after (.push report)).Sound ∧ Departs d (d.after (.push report)) (.push report) := by
  cases samples : d.queue.samples with
  | nil => exact departs_push_first sound own samples
  | cons front rest =>
    by_cases full : d.queue.capacity ≤ d.queue.samples.length
    · exact departs_push_full sound own samples full
    · exact departs_push_behind sound own samples full

theorem ofNat_inj_of_le {m n : Nat} (same : UInt8.ofNat m = UInt8.ofNat n) (le : m ≤ n)
    (near : n < m + 256) : m = n := by
  have bytes := congrArg UInt8.toNat same
  simp only [UInt8.toNat_ofNat'] at bytes
  omega

/-- A timely acknowledgment that names the front is of the front itself: an older sample with its
id is 256 places before it at least. -/
theorem receipt_of_front (ordered : d.Ordered) {r : Receipt} (received : r ∈ d.receipts)
    (timely : ∀ place, r.sample = some place → d.reached (place + 256) = false)
    (found : d.pushed[d.left]? = some front) (page : front.tag = r.acknowledgement.page)
    (messageId : front.messageId = r.acknowledgement.messageId) :
    r.sample = some d.left ∧ r.page = front.payload := by
  have genuine := ordered.receipts r received
  have numbered := ordered.numbered _ front found
  have bound := (List.getElem?_eq_some_iff.1 found).1
  cases sample : r.sample with
  | none =>
    have begins : r.page.byte 0 = front.tag.code := (congrArg PageTag.code page).symm
    exact absurd begins (genuine.other sample front.tag numbered.own)
  | some place =>
    obtain ⟨le, s, old, same⟩ := genuine.sample place sample
    have ids : UInt8.ofNat place = UInt8.ofNat d.left := by
      have older := ordered.numbered place s old
      rw [← older.messageId, ← older.header, ← same, ← numbered.messageId, messageId]
      rfl
    have near : d.left < place + 256 := by
      have := timely place sample
      simp only [reached, Bool.and_eq_false_iff, decide_eq_false_iff_not] at this
      omega
    obtain rfl := ofNat_inj_of_le ids le near
    obtain rfl := Option.some.inj (old.symm.trans found)
    exact ⟨rfl, same⟩

theorem ordered_retired (ordered : d.Ordered) (samples : d.queue.samples = front :: rest) :
    { d with queue := { d.queue with samples := rest } }.left = d.left + 1 ∧
      { d with queue := { d.queue with samples := rest } }.Ordered := by
  have length := length_queue ordered
  rw [samples, List.length_cons] at length
  have left : { d with queue := { d.queue with samples := rest } }.left = d.left + 1 := by
    change d.pushed.length - rest.length = _
    omega
  refine ⟨left, ?_⟩
  constructor
  · exact ordered.capacity
  · rw [left]
    change rest = d.pushed.drop (d.left + 1)
    rw [← List.tail_drop, ← ordered.queued, samples]
    rfl
  · exact ordered.nextId
  · exact ordered.numbered
  · rw [left]
    intro r member
    simpa using (ordered.receipts r member).later [] (Nat.le_succ d.left)

theorem departs_deliver (sound : d.Sound) {r : Receipt} (received : r ∈ d.receipts)
    (timely : ∀ place, r.sample = some place → d.reached (place + 256) = false) :
    (d.after (.deliver r)).Sound ∧ Departs d (d.after (.deliver r)) (.deliver r) := by
  have ordered := sound.toOrdered
  cases acknowledged : d.queue.acknowledge r.acknowledgement with
  | none =>
    simp only [after, acknowledged]
    refine ⟨sound, .none _ ?_⟩
    rw [List.drop_length, List.append_nil]
  | some next =>
    obtain ⟨queue, requests⟩ := next
    obtain ⟨front, rest, samples, page, messageId, rfl, rfl⟩ :=
      SampleQueue.acknowledge_eq_some acknowledged
    have found : d.pushed[d.left]? = some front := by
      rw [← front_eq ordered, SampleQueue.front?, samples]
      rfl
    obtain ⟨sample, shown⟩ := receipt_of_front ordered received timely found page messageId
    obtain ⟨left, ordered'⟩ := ordered_retired ordered samples
    have same := tag_eq_of_front sound samples
    simp only [after, acknowledged]
    refine ⟨sound_serve ordered' ?_, .retired r front samples received sample shown⟩
    refine Carousel.followed_next (front_eq ordered') (tagged_front ordered')
      sound.followed.fronts.tagged same ?_
    have onAir := (genuine_onAir sound).later [] (Nat.le_succ d.left)
    rw [List.append_nil] at onAir
    rw [left]
    exact onAir

theorem departs_after (sound : d.Sound) {event : Event} (admitted : d.admits event) :
    (d.after event).Sound ∧ Departs d (d.after event) event := by
  have unmoved : d.queue.samples = d.queue.samples ++ d.pushed.drop d.pushed.length := by
    rw [List.drop_length, List.append_nil]
  cases event with
  | push report => exact departs_push sound (by simpa [admits] using admitted)
  | ask request =>
    simp only [admits, Bool.and_eq_true, Bool.not_eq_true', Option.all_eq_true, beq_iff_eq]
      at admitted
    obtain ⟨foreign, begins⟩ := admitted
    have followed := Carousel.followed_ask (by simpa using foreign) begins sound.followed
    exact ⟨sound_serve sound.toOrdered followed, .none _ unmoved⟩
  | period =>
    have followed := Carousel.followed_rotate sound.followed.fronts
    have ordered := sound.toOrdered
    exact ⟨⟨⟨ordered.capacity, ordered.queued, ordered.nextId, ordered.numbered, ordered.receipts⟩,
      followed⟩, .none _ unmoved⟩
  | receive =>
    have ordered := sound.toOrdered
    have onAir := genuine_onAir sound
    refine ⟨⟨⟨ordered.capacity, ordered.queued, ordered.nextId, ordered.numbered, ?_⟩,
      sound.followed⟩, .none _ unmoved⟩
    intro r member
    rcases List.mem_cons.1 member with rfl | before
    · exact onAir
    · exact ordered.receipts r before
  | deliver r =>
    simp only [admits, Bool.and_eq_true, Option.all_eq_true, Bool.not_eq_true'] at admitted
    exact departs_deliver sound (by simpa using admitted.1) admitted.2

theorem sound_run {events : List Event} (sound : d.Sound) (permitted : d.permits events) :
    (d.run events).Sound :=
  inTurn_kept (motive := fun _ d => d.Sound) sound
    (fun _ _ _ sound admitted => (departs_after sound admitted).1) permitted

/-- Of every interleaving of pushes, periods, other pages, receptions and acknowledgments that come
in late, repeatedly, in any order or never: what the application receives is what is on air, and a
sample leaves the queue only for a full queue's next one, or because the application received it. -/
theorem retired_was_received (samples pages : Nat) (events : List Event) (event : Event)
    (permitted : (start samples pages).permits (events ++ [event])) :
    let d := (start samples pages).run events
    d.queue.samples = d.pushed.drop d.left ∧ d.onAir.Genuine d.pushed d.left ∧
      (∀ r ∈ d.receipts, r.Genuine d.pushed d.left) ∧ Departs d (d.after event) event := by
  intro d
  obtain ⟨before, last⟩ := permitsInTurn_append.1 permitted
  have sound : d.Sound := sound_run (sound_start samples pages) before
  have admitted : d.admits event := (permitsInTurn_cons.1 last).1
  exact ⟨sound.queued, genuine_onAir sound, sound.receipts, (departs_after sound admitted).2⟩

def motion (detected : Bool) : Report := .motion 1 Facing.up.octant detected

/-- Beside another sender's page. The first sample is received before and after it is shed, and its
acknowledgment comes in only then. -/
def overtaken : List Event :=
  let foreign := (Report.activity ⟨0, 0⟩ 1 .idle).page 9
  let first : Receipt := ⟨some 0, (motion true).page 0⟩
  [.ask (.broadcast .activity foreign 1), .push (motion true), .period, .receive,
    .push (motion false), .push (motion true), .receive, .deliver first, .period, .receive]

/-- The sample behind it has been received too, and is retired. -/
theorem retired_was_received_overtaken :
    let d := (start 2 5).run overtaken
    let event : Event := .deliver ⟨some 1, (motion false).page 1⟩
    (start 2 5).permits (overtaken ++ [event]) ∧ d.left = 1 ∧ (d.after event).left = 2 ∧
      Departs d (d.after event) event := by
  intro d event
  have permitted : (start 2 5).permits (overtaken ++ [event]) = true := by decide +kernel
  exact ⟨permitted, by decide +kernel, by decide +kernel,
    (retired_was_received 2 5 overtaken event permitted).2.2.2⟩

end Delivery

end WildlifeWarning
