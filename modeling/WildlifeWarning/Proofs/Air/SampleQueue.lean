import WildlifeWarning.Air.SampleQueue
import WildlifeWarning.Proofs.Air.Copies

/-! The copies of samples on air: two of the front, none of an empty queue. -/

namespace WildlifeWarning

def Sample.copy (s : Sample) : PageCopy := ⟨s.tag, s.payload⟩

namespace SampleQueue

def tags : List PageTag := [.rangingSample, .motionSample]

def due (q : SampleQueue) : List PageCopy :=
  (q.front?.toList.map Sample.copy).flatMap (List.replicate Sample.replicas)

def Sound (q : SampleQueue) : Prop := ∀ s ∈ q.samples, s.tag ∈ tags

theorem airFront_eq (q : SampleQueue) :
    q.airFront = (q.front?.toList.map Sample.copy).map (PageCopy.request Sample.replicas) := by
  unfold airFront
  cases q.front? <;> rfl

theorem push_eq (q : SampleQueue) (report : Report) :
    (q.push report).1 = { q with
      samples := (if q.capacity ≤ q.samples.length then q.samples.tail else q.samples) ++
        [⟨report.tag, q.nextId, report.page q.nextId⟩]
      nextId := q.nextId + 1 } := by
  unfold push
  cases samples : q.samples with
  | nil => simp
  | cons front rest =>
    simp only
    split <;> rfl

theorem due_of_front {q : SampleQueue} {front : Sample} {rest : List Sample}
    (h : q.samples = front :: rest) : q.due = List.replicate Sample.replicas front.copy := by
  simp [due, front?, h]

theorem due_of_empty {q : SampleQueue} (h : q.samples = []) : q.due = [] := by
  simp [due, front?, h]

theorem length_due_le (q : SampleQueue) : q.due.length ≤ 2 := by
  cases h : q.samples with
  | nil => simp [due_of_empty h]
  | cons front rest => simp [due_of_front h, Sample.replicas]

theorem tag_mem_of_mem_due {q : SampleQueue} (sound : q.Sound) {copy : PageCopy}
    (h : copy ∈ q.due) : copy.tag ∈ tags := by
  cases samples : q.samples with
  | nil => simp [due_of_empty samples] at h
  | cons front rest =>
    rw [due_of_front samples] at h
    rw [List.eq_of_mem_replicate h]
    exact sound front (samples ▸ List.mem_cons_self)

variable {c : Carousel} {others : List PageCopy} {q : SampleQueue}

theorem airs_front (q : SampleQueue) (h : c.copies.Perm others)
    (room : others.length + 2 ≤ c.capacity) : c.Airs q.airFront (others ++ q.due) := by
  rw [airFront_eq]
  refine Carousel.airs_requests _ _ h ?_
  have : q.front?.toList.length ≤ 1 := by cases q.front? <;> simp
  simp only [List.length_map, Sample.replicas]
  omega

theorem airs_next {front : Sample} {rest : List Sample} (next : SampleQueue)
    (samples : q.samples = front :: rest) (h : c.copies.Perm (others ++ q.due))
    (foreign : ∀ copy ∈ others, copy.tag ≠ front.tag) (room : others.length + 2 ≤ c.capacity) :
    c.Airs (.cancel front.tag :: next.airFront) (others ++ next.due) := by
  have own : ∀ copy ∈ q.due, copy.tag = front.tag := by
    intro copy member
    rw [due_of_front samples] at member
    rw [List.eq_of_mem_replicate member]
    rfl
  have cleared := Carousel.copies_remove_own h foreign own
  exact Carousel.airs_cons rfl (by simp) (airs_front next cleared (by simpa using room))

theorem airs_push (report : Report) (sound : q.Sound) (h : c.copies.Perm (others ++ q.due))
    (foreign : ∀ copy ∈ others, copy.tag ∉ tags) (room : others.length + 2 ≤ c.capacity) :
    c.Airs (q.push report).2 (others ++ (q.push report).1.due) := by
  cases samples : q.samples with
  | nil =>
    rw [due_of_empty samples, List.append_nil] at h
    simp only [push, samples]
    exact airs_front _ h room
  | cons front rest =>
    have own := sound front (samples ▸ List.mem_cons_self)
    simp only [push, samples]
    split
    · refine airs_next _ samples h (fun copy member same => ?_) room
      exact foreign copy member (same ▸ own)
    · refine Carousel.airs_nil (h.trans (List.Perm.of_eq ?_))
      rw [due_of_front samples]
      rfl

theorem sound_push {report : Report} (sound : q.Sound) (own : report.tag ∈ tags) :
    (q.push report).1.Sound := by
  intro s member
  rw [push_eq] at member
  rcases List.mem_append.1 member with old | new
  · refine sound s ?_
    split at old
    · exact List.mem_of_mem_tail old
    · exact old
  · rw [List.mem_singleton.1 new]
    exact own

theorem acknowledge_eq_some {a : Acknowledgement} {next : SampleQueue} {requests : List Request}
    (acknowledged : q.acknowledge a = some (next, requests)) :
    ∃ front rest, q.samples = front :: rest ∧ front.tag = a.page ∧
      front.messageId = a.messageId ∧ next = { q with samples := rest } ∧
      requests = .cancel front.tag :: next.airFront := by
  unfold acknowledge at acknowledged
  split at acknowledged
  · contradiction
  · next front rest samples =>
    split at acknowledged
    · next named =>
      obtain ⟨rfl, rfl⟩ := Prod.mk.inj (Option.some.inj acknowledged)
      exact ⟨front, rest, samples, named.1, named.2, rfl, rfl⟩
    · contradiction

theorem sound_acknowledge {a : Acknowledgement} {next : SampleQueue} {requests : List Request}
    (acknowledged : q.acknowledge a = some (next, requests)) (sound : q.Sound) : next.Sound := by
  obtain ⟨front, rest, samples, -, -, rfl, -⟩ := acknowledge_eq_some acknowledged
  exact fun s member => sound s (samples ▸ List.mem_cons_of_mem _ member)

theorem airs_acknowledge {a : Acknowledgement} {next : SampleQueue} {requests : List Request}
    (acknowledged : q.acknowledge a = some (next, requests)) (sound : q.Sound)
    (h : c.copies.Perm (others ++ q.due)) (foreign : ∀ copy ∈ others, copy.tag ∉ tags)
    (room : others.length + 2 ≤ c.capacity) :
    next.Sound ∧ c.Airs requests (others ++ next.due) := by
  refine ⟨sound_acknowledge acknowledged sound, ?_⟩
  obtain ⟨front, rest, samples, -, -, rfl, rfl⟩ := acknowledge_eq_some acknowledged
  have own := sound front (samples ▸ List.mem_cons_self)
  refine airs_next _ samples h (fun copy member same => ?_) room
  exact foreign copy member (same ▸ own)

end SampleQueue

end WildlifeWarning
