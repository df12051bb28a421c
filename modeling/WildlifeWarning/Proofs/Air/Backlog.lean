import WildlifeWarning.Proofs.Air.SampleQueue
import WildlifeWarning.Proofs.Air.Sharing
import WildlifeWarning.Proofs.InTurn

/-! What a queue of samples holds and airs over time, on a carousel that it shares and that grants
what it asks for: the last of what was pushed, numbered in one byte, of which the first is on
air. -/

namespace WildlifeWarning

namespace SampleQueue

/-- The samples that reports become, pushed one after the other into a new queue. -/
def numbered (reports : List Report) : List Sample :=
  reports.mapIdx fun i report => ⟨report.tag, UInt8.ofNat i, report.page (UInt8.ofNat i)⟩

variable {q next : SampleQueue} {c : Carousel}

theorem length_numbered (reports : List Report) : (numbered reports).length = reports.length :=
  List.length_mapIdx

theorem numbered_concat (reports : List Report) (report : Report) :
    numbered (reports ++ [report]) = numbered reports ++
      [⟨report.tag, UInt8.ofNat reports.length, report.page (UInt8.ofNat reports.length)⟩] :=
  List.mapIdx_concat

theorem acknowledge_of_named {a : Acknowledgement} {front : Sample} (first : q.front? = some front)
    (named : front.tag = a.page ∧ front.messageId = a.messageId) :
    ∃ answer, q.acknowledge a = some answer ∧ answer.1.samples = q.samples.tail := by
  obtain ⟨rest, samples⟩ := List.head?_eq_some_iff.1 first
  simp only [acknowledge, samples, if_pos named]
  exact ⟨_, rfl, rfl⟩

theorem acknowledge_of_unnamed {a : Acknowledgement}
    (unnamed : ∀ front, q.front? = some front →
      ¬(front.tag = a.page ∧ front.messageId = a.messageId)) : q.acknowledge a = none := by
  cases samples : q.samples with
  | nil => simp only [acknowledge, samples]
  | cons front rest =>
    have other := unnamed front (by rw [front?, samples]; rfl)
    simp only [acknowledge, samples, if_neg other]

theorem perm_due_iff {copies : List PageCopy} : copies.Perm q.due ↔ copies = q.due := by
  cases samples : q.samples with
  | nil => rw [due_of_empty samples, List.perm_nil]
  | cons front rest => rw [due_of_front samples, List.perm_replicate]

end SampleQueue

namespace Carousel

def samples (c : Carousel) : List PageCopy := c.under fun tag => SampleQueue.tags.contains tag

variable {q next : SampleQueue} {c : Carousel}

theorem samples_airFront (sound : next.Sound) (bare : c.samples = [])
    (granted : (c.serve next.airFront).1 = .ok ()) :
    (c.serve next.airFront).2.samples = next.due := by
  rw [SampleQueue.airFront_eq] at granted ⊢
  have ours : ∀ copy ∈ next.front?.toList.map Sample.copy,
      SampleQueue.tags.contains copy.tag := by
    intro copy member
    obtain ⟨s, first, rfl⟩ := List.mem_map.1 member
    have stored := List.mem_of_mem_head? (Option.mem_toList.1 first)
    exact List.contains_iff_mem.2 (sound s stored)
  have aired : (c.serve _).2.samples.Perm (c.samples ++ next.due) := under_requests ours granted
  rw [bare, List.nil_append] at aired
  exact SampleQueue.perm_due_iff.1 aired

theorem samples_next {front : Sample} {rest : List Sample} (queue : q.samples = front :: rest)
    (sound : next.Sound) (aired : c.samples = q.due)
    (granted : (c.serve (.cancel front.tag :: next.airFront)).1 = .ok ()) :
    (c.serve (.cancel front.tag :: next.airFront)).2.samples = next.due := by
  have bare : (c.remove front.tag).samples = [] := by
    rw [samples, under_remove]
    refine List.filter_eq_nil_iff.2 fun copy member => ?_
    have member : copy ∈ q.due := aired ▸ member
    rw [SampleQueue.due_of_front queue] at member
    simp [List.eq_of_mem_replicate member, Sample.copy]
  exact samples_airFront sound bare granted

theorem samples_push {report : Report} (sound : q.Sound) (own : report.tag ∈ SampleQueue.tags)
    (aired : c.samples = q.due) (granted : (c.serve (q.push report).2).1 = .ok ()) :
    (c.serve (q.push report).2).2.samples = (q.push report).1.due := by
  have pushed := SampleQueue.sound_push sound own
  cases queue : q.samples with
  | nil =>
    rw [SampleQueue.due_of_empty queue] at aired
    simp only [SampleQueue.push, queue] at granted pushed ⊢
    exact samples_airFront pushed aired granted
  | cons front rest =>
    by_cases full : q.capacity ≤ (front :: rest).length
    · simp only [SampleQueue.push, queue, if_pos full] at granted pushed ⊢
      exact samples_next queue pushed aired granted
    · simp only [SampleQueue.push, queue, if_neg full, serve]
      rw [aired, SampleQueue.due_of_front queue]
      rfl

theorem samples_acknowledge {a : Acknowledgement} {requests : List Request} (sound : q.Sound)
    (acknowledged : q.acknowledge a = some (next, requests)) (aired : c.samples = q.due)
    (granted : (c.serve requests).1 = .ok ()) : (c.serve requests).2.samples = next.due := by
  have left := SampleQueue.sound_acknowledge acknowledged sound
  obtain ⟨front, rest, queue, -, -, rfl, rfl⟩ := SampleQueue.acknowledge_eq_some acknowledged
  exact samples_next queue left aired granted

end Carousel

structure Backlog where
  queue : SampleQueue
  carousel : Carousel

namespace Backlog

inductive Turn where
  | push (report : Report)
  | acknowledge (a : Acknowledgement)
  /-- Another sender changes its pages. -/
  | ask (request : Request)
  | period

def start (capacity : Nat) (carousel : Carousel) : Backlog := ⟨.ofCapacity capacity, carousel⟩

def send (s : Backlog) (answer : SampleQueue × List Request) : Backlog :=
  ⟨answer.1, (s.carousel.serve answer.2).2⟩

def after (s : Backlog) : Turn → Backlog
  | .push report => s.send (s.queue.push report)
  | .acknowledge a =>
    match s.queue.acknowledge a with
    | some answer => s.send answer
    | none => s
  | .ask request => { s with carousel := (s.carousel.serve [request]).2 }
  | .period => { s with carousel := s.carousel.rotate }

def run (s : Backlog) (turns : List Turn) : Backlog := inTurn after s turns

def grants (s : Backlog) (requests : List Request) : Bool := (s.carousel.serve requests).1.isOk

/-- Samples are pushed under their own tags, which are no other sender's, and are granted. -/
def admits (s : Backlog) : Turn → Bool
  | .push report => SampleQueue.tags.contains report.tag && s.grants (s.queue.push report).2
  | .acknowledge a => (s.queue.acknowledge a).all fun answer => s.grants answer.2
  | .ask request => !SampleQueue.tags.contains request.tag
  | .period => true

def permits (s : Backlog) (turns : List Turn) : Bool := permitsInTurn after admits s turns

def reports (turns : List Turn) : List Report :=
  turns.filterMap fun
    | .push report => some report
    | _ => none

/-- The queue holds the last of the samples, and the first of these is on air. -/
structure Sound (s : Backlog) (capacity : Nat) (pushed : List Report) : Prop where
  sized : s.queue.capacity = capacity
  positive : 0 < capacity
  nextId : s.queue.nextId = UInt8.ofNat pushed.length
  queued : s.queue.samples <:+ SampleQueue.numbered pushed
  length : s.queue.samples.length ≤ capacity
  own : s.queue.Sound
  aired : s.carousel.samples = s.queue.due

variable {s : Backlog} {capacity : Nat} {pushed : List Report} {turn : Turn}

theorem sound_start {carousel : Carousel} (capacity : Nat) (bare : carousel.samples = []) :
    (start capacity carousel).Sound (max capacity 1) [] where
  sized := Nat.max_comm 1 capacity
  positive := Nat.lt_of_lt_of_le Nat.one_pos (Nat.le_max_right capacity 1)
  nextId := rfl
  queued := List.suffix_refl _
  length := Nat.zero_le _
  own := by simp [SampleQueue.Sound, start, SampleQueue.ofCapacity]
  aired := bare

theorem samples_after_push (s : Backlog) (report : Report) :
    (s.after (.push report)).queue.samples =
      (if s.queue.capacity ≤ s.queue.samples.length then s.queue.samples.tail
        else s.queue.samples) ++ [⟨report.tag, s.queue.nextId, report.page s.queue.nextId⟩] := by
  simp only [after, send, SampleQueue.push_eq]

theorem sound_push {report : Report} (sound : s.Sound capacity pushed)
    (admitted : s.admits (.push report)) :
    (s.after (.push report)).Sound capacity (pushed ++ [report]) := by
  simp only [admits, Bool.and_eq_true, List.contains_iff_mem] at admitted
  obtain ⟨tag, granted⟩ := admitted
  constructor
  · simp only [after, send, SampleQueue.push_eq, sound.sized]
  · exact sound.positive
  · simp only [after, send, SampleQueue.push_eq, sound.nextId, List.length_append]
    exact (UInt8.ofNat_add _ _).symm
  · have kept : (if s.queue.capacity ≤ s.queue.samples.length then s.queue.samples.tail
        else s.queue.samples) <:+ SampleQueue.numbered pushed := by
      split
      · exact (List.tail_suffix _).trans sound.queued
      · exact sound.queued
    obtain ⟨shed, all⟩ := kept
    rw [samples_after_push, SampleQueue.numbered_concat, sound.nextId, ← all, List.append_assoc]
    exact List.suffix_append shed _
  · rw [samples_after_push, sound.sized]
    have bound := sound.length
    have positive := sound.positive
    split
    · simp only [List.length_append, List.length_tail, List.length_singleton]
      omega
    · simp only [List.length_append, List.length_singleton]
      omega
  · exact SampleQueue.sound_push sound.own tag
  · exact Carousel.samples_push sound.own tag sound.aired (Carousel.served_of_isOk granted)

theorem sound_acknowledge {a : Acknowledgement} (sound : s.Sound capacity pushed)
    (admitted : s.admits (.acknowledge a)) : (s.after (.acknowledge a)).Sound capacity pushed := by
  cases acknowledged : s.queue.acknowledge a with
  | none => simpa only [after, acknowledged] using sound
  | some answer =>
    obtain ⟨next, requests⟩ := answer
    simp only [admits, acknowledged, Option.all_some] at admitted
    have own := SampleQueue.sound_acknowledge acknowledged sound.own
    have aired := Carousel.samples_acknowledge sound.own acknowledged sound.aired
      (Carousel.served_of_isOk admitted)
    obtain ⟨front, rest, queue, -, -, rfl, -⟩ := SampleQueue.acknowledge_eq_some acknowledged
    have shorter : rest <:+ s.queue.samples := queue ▸ List.suffix_cons front rest
    simp only [after, acknowledged]
    exact ⟨sound.sized, sound.positive, sound.nextId, shorter.trans sound.queued,
      Nat.le_trans shorter.length_le sound.length, own, aired⟩

theorem sound_after (sound : s.Sound capacity pushed) (admitted : s.admits turn) :
    (s.after turn).Sound capacity (pushed ++ reports [turn]) := by
  cases turn with
  | push report => exact sound_push sound admitted
  | acknowledge a =>
    rw [show reports [Turn.acknowledge a] = [] from rfl, List.append_nil]
    exact sound_acknowledge sound admitted
  | ask request =>
    rw [show reports [Turn.ask request] = [] from rfl, List.append_nil]
    have foreign : SampleQueue.tags.contains request.tag = false := by simpa [admits] using admitted
    have aired : (s.carousel.serve [request]).2.samples.Perm s.carousel.samples :=
      Carousel.under_serve foreign
    exact { sound with aired := SampleQueue.perm_due_iff.1 (aired.trans (.of_eq sound.aired)) }
  | period =>
    rw [show reports [Turn.period] = [] from rfl, List.append_nil]
    have still : s.carousel.rotate.copies = s.carousel.copies := by
      rw [Carousel.copies, Carousel.slots_rotate, Carousel.copies]
    have aired : s.carousel.rotate.samples = s.carousel.samples := by
      rw [Carousel.samples, Carousel.under, still]
      rfl
    exact { sound with aired := aired.trans sound.aired }

theorem sound_run {turns : List Turn} (sound : s.Sound capacity [])
    (permitted : s.permits turns) : (s.run turns).Sound capacity (reports turns) := by
  refine inTurn_kept (motive := fun turns s => s.Sound capacity (reports turns)) sound ?_ permitted
  intro earlier s turn sound admitted
  rw [reports, List.filterMap_append]
  exact sound_after sound admitted

/-- After any turns: the samples are the last of those pushed, in that order, each with its place
in one byte for an id; two copies of the first are the only ones of samples on air. A turn takes the
first at most, either for want of room for the next or because page and id name it. -/
theorem keeps_latest (capacity : Nat) {carousel : Carousel} (bare : carousel.samples = [])
    (turns : List Turn) (permitted : (start capacity carousel).permits turns) :
    let s := (start capacity carousel).run turns
    let pushed := SampleQueue.numbered (reports turns)
    let held := s.queue.samples
    held = pushed.drop (pushed.length - held.length) ∧ held.length ≤ max capacity 1 ∧
    s.carousel.samples = held.head?.toList.flatMap (fun front => [front.copy, front.copy]) ∧
    (∀ report, (s.after (.push report)).queue.samples =
      (if max capacity 1 ≤ held.length then held.tail else held) ++
        [⟨report.tag, UInt8.ofNat pushed.length, report.page (UInt8.ofNat pushed.length)⟩]) ∧
    (∀ a,
      (∀ front, held.head? = some front → front.tag = a.page ∧ front.messageId = a.messageId →
        (s.after (.acknowledge a)).queue.samples = held.tail) ∧
      ((∀ front, held.head? = some front → ¬(front.tag = a.page ∧ front.messageId = a.messageId)) →
        s.after (.acknowledge a) = s)) ∧
    (∀ request, (s.after (.ask request)).queue = s.queue) ∧ (s.after .period).queue = s.queue := by
  intro s pushed held
  have sound : s.Sound (max capacity 1) (reports turns) :=
    sound_run (sound_start capacity bare) permitted
  have length : pushed.length = (reports turns).length := SampleQueue.length_numbered _
  refine ⟨List.suffix_iff_eq_drop.1 sound.queued, sound.length, sound.aired.trans ?_,
    fun report => ?_, fun a => ⟨fun front first named => ?_, fun unnamed => ?_⟩,
    fun request => rfl, rfl⟩
  · cases queue : s.queue.samples with
    | nil => simp only [SampleQueue.due_of_empty queue, held, queue]; rfl
    | cons front rest => simp only [SampleQueue.due_of_front queue, held, queue]; rfl
  · rw [samples_after_push, sound.sized, sound.nextId, length]
  · obtain ⟨answer, acknowledged, left⟩ := SampleQueue.acknowledge_of_named first named
    simp only [after, acknowledged]
    exact left
  · simp only [after, SampleQueue.acknowledge_of_unnamed unnamed]

def motion : Report := .motion 1 Facing.up.octant true

def ranging : Report := .ranging 2 Facing.up.octant 300 1

/-- A queue for one sample, beside another sender's page. The first sample is shed for one of
another tag, which is acknowledged by a name that is not its own and then by its own. -/
theorem keeps_latest_one :
    let foreign := (Report.activity ⟨0, 0⟩ 1 .idle).page 9
    let turns : List Turn := [.ask (.broadcast .activity foreign 1), .push motion, .push ranging,
      .acknowledge ⟨.motionSample, 1⟩, .period]
    let s := (start 0 (.empty 3)).run turns
    (Carousel.empty 3).samples = [] ∧ (start 0 (.empty 3)).permits turns ∧
    s.queue.samples = [⟨.rangingSample, 1, ranging.page 1⟩] ∧
    s.carousel.samples = List.replicate 2 ⟨.rangingSample, ranging.page 1⟩ ∧
    (s.after (.acknowledge ⟨.rangingSample, 1⟩)).queue.samples = [] := by
  intro foreign turns s
  have bare : (Carousel.empty 3).samples = [] := by decide
  have permitted : (start 0 (.empty 3)).permits turns = true := by decide +kernel
  have queue : s.queue.samples = [⟨.rangingSample, 1, ranging.page 1⟩] := by decide +kernel
  obtain ⟨-, -, aired, -, named, -⟩ := keeps_latest 0 bare turns permitted
  refine ⟨bare, permitted, queue, ?_, ?_⟩
  · exact aired.trans (by rw [queue]; rfl)
  · have first : s.queue.samples.head? = some ⟨.rangingSample, 1, ranging.page 1⟩ := by
      rw [queue]
      rfl
    have left := (named ⟨.rangingSample, 1⟩).1 _ first ⟨rfl, rfl⟩
    exact left.trans (by rw [queue]; rfl)

end Backlog

end WildlifeWarning
