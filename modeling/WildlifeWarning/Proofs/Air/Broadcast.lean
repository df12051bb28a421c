import WildlifeWarning.Proofs.Air.Headers
import WildlifeWarning.Proofs.Air.Sharing
import WildlifeWarning.Proofs.InTurn

/-! An echo board over time, on a carousel that it shares.
What was published and what was acknowledged is kept as a history, and from it alone follows what is
due: of every subject its latest page, as long as that is not acknowledged. That a single page is
overwritten where it is makes no difference to what the carousel holds. -/

namespace WildlifeWarning

structure Publication (κ : Type) where
  key : κ
  messageId : UInt8
  payload : Payload
  deriving DecidableEq

def EchoSlot.publication {κ : Type} (s : EchoSlot κ) : Publication κ :=
  ⟨s.key, s.messageId, s.payload⟩

inductive Echoed (κ : Type) where
  | published (p : Publication κ)
  | acknowledged (a : Acknowledgement)
  deriving DecidableEq

namespace Echoed

variable {κ : Type} [DecidableEq κ] {tag : PageTag} {history : List (Echoed κ)}
  {p : Publication κ}

/-- A page replaces the one before it of its subject, and goes with its acknowledgment. -/
def settle (tag : PageTag) (open_ : List (Publication κ)) : Echoed κ → List (Publication κ)
  | published p => (open_.filter fun q => q.key ≠ p.key) ++ [p]
  | acknowledged a =>
    if a.page = tag then open_.filter fun q => q.messageId ≠ a.messageId else open_

/-- The latest page of each subject, unless acknowledged since. -/
def outstanding (tag : PageTag) (history : List (Echoed κ)) : List (Publication κ) :=
  inTurn (settle tag) [] history

/-- The page was published, and since then neither was its subject published again nor was it
acknowledged. -/
def Latest (tag : PageTag) (history : List (Echoed κ)) (p : Publication κ) : Prop :=
  ∃ before after, history = before ++ published p :: after ∧
    (∀ q, published q ∈ after → q.key ≠ p.key) ∧ acknowledged ⟨tag, p.messageId⟩ ∉ after

omit [DecidableEq κ] in
theorem latest_concat_iff {e : Echoed κ} : Latest tag (history ++ [e]) p ↔
    e = published p ∨ (Latest tag history p ∧ (∀ q, e = published q → q.key ≠ p.key) ∧
      e ≠ acknowledged ⟨tag, p.messageId⟩) := by
  constructor
  · rintro ⟨before, after, split, newest, open_⟩
    rcases List.eq_nil_or_concat after with rfl | ⟨rest, last, rfl⟩
    · exact .inl (List.cons.inj (List.append_inj' split rfl).2).1
    · rw [List.concat_eq_append, ← List.cons_append, ← List.append_assoc] at split
      obtain ⟨earlier, ends⟩ := List.append_inj' split rfl
      obtain rfl := List.singleton_inj.1 ends
      simp only [List.concat_eq_append, List.mem_append, List.mem_singleton] at newest open_
      refine .inr ⟨⟨before, rest, earlier, fun q later => newest q (.inl later),
        fun later => open_ (.inl later)⟩, ?_, fun same => open_ (.inr same.symm)⟩
      rintro q rfl
      exact newest q (.inr rfl)
  · rintro (rfl | ⟨⟨before, after, rfl, newest, open_⟩, other, unnamed⟩)
    · exact ⟨history, [], rfl, by simp, by simp⟩
    · refine ⟨before, after ++ [e], by simp, fun q later => ?_, fun later => ?_⟩
      · rcases List.mem_append.1 later with old | new
        · exact newest q old
        · exact other q (List.mem_singleton.1 new).symm
      · rcases List.mem_append.1 later with old | new
        · exact open_ old
        · exact unnamed (List.mem_singleton.1 new).symm

theorem mem_outstanding_iff : p ∈ outstanding tag history ↔ Latest tag history p := by
  induction history using List.reverseRecOn with
  | nil => simp [outstanding, Latest]
  | append_singleton history e ih =>
    rw [outstanding, inTurn_concat, ← outstanding, latest_concat_iff]
    cases e with
    | published q =>
      have named : published q = published p ↔ p = q :=
        ⟨fun same => (published.inj same).symm, fun same => congrArg published same.symm⟩
      have apart : q.key = p.key ↔ p.key = q.key := eq_comm
      simp [settle, ih, named, apart, or_comm]
    | acknowledged a =>
      obtain ⟨page, id⟩ := a
      have named : id = p.messageId ↔ p.messageId = id := eq_comm
      by_cases own : page = tag <;> simp [settle, own, ih, named]

end Echoed

namespace EchoBoard

variable {κ : Type} {b next : EchoBoard κ} {a : Acknowledgement} {requests : List Request}

theorem airing_retire {id : UInt8} {slots : List (EchoSlot κ)}
    (distinct : (slots.map EchoSlot.key).Nodup)
    (apart : ∀ s ∈ slots, ∀ t ∈ slots, s.onAir → t.onAir → s.messageId = t.messageId →
      s.key = t.key) :
    (retire id slots).filter (·.onAir) =
      (slots.filter (·.onAir)).filter fun s => s.messageId ≠ id := by
  fun_induction retire id slots with
  | case1 => rfl
  | case2 s rest found =>
    simp only [Bool.and_eq_true, beq_iff_eq] at found
    have others : (rest.filter (·.onAir)).filter (fun t => t.messageId ≠ id) =
        rest.filter (·.onAir) := by
      refine List.filter_eq_self.2 fun t member => decide_eq_true fun same => ?_
      obtain ⟨later, on⟩ := List.mem_filter.1 member
      have key := apart s List.mem_cons_self t (List.mem_cons_of_mem _ later) found.1 on
        (found.2.trans same.symm)
      exact (List.nodup_cons.1 distinct).1 (key ▸ List.mem_map_of_mem later)
    rw [List.filter_cons_of_neg (by simp), List.filter_cons_of_pos (by simpa using found.1),
      List.filter_cons_of_neg (by simpa using found.2), others]
  | case3 s rest other ih =>
    have ih := ih (List.nodup_cons.1 distinct).2 fun s first t second =>
      apart s (List.mem_cons_of_mem _ first) t (List.mem_cons_of_mem _ second)
    by_cases on : s.onAir
    · have kept : s.messageId ≠ id := by simpa [on] using other
      simp [on, kept, ih]
    · simp [on, ih]

theorem retire_eq_map {id : UInt8} {slots : List (EchoSlot κ)}
    (distinct : (slots.map EchoSlot.key).Nodup)
    (apart : ∀ s ∈ slots, ∀ t ∈ slots, s.onAir → t.onAir → s.messageId = t.messageId →
      s.key = t.key) {s : EchoSlot κ} (stored : s ∈ slots) (on : s.onAir) (named : s.messageId = id)
    [DecidableEq κ] :
    retire id slots = slots.map fun t => if t = s then { t with onAir := false } else t := by
  fun_induction retire id slots with
  | case1 => contradiction
  | case2 first rest found =>
    simp only [Bool.and_eq_true, beq_iff_eq] at found
    have key : first.key = s.key := apart first List.mem_cons_self s stored found.1 on
      (found.2.trans named.symm)
    have absent : ∀ t ∈ rest, t.key ≠ first.key := fun t later same =>
      (List.nodup_cons.1 distinct).1 (same ▸ List.mem_map_of_mem later)
    have here : first = s := by
      rcases List.mem_cons.1 stored with same | later
      · exact same.symm
      · exact absurd key.symm (absent s later)
    have others : rest.map (fun t => if t = s then { t with onAir := false } else t) = rest := by
      refine (List.map_congr_left fun t later => if_neg ?_).trans (List.map_id' rest)
      rintro rfl
      exact absent t later key.symm
    rw [List.map_cons, if_pos here, others]
  | case3 first rest other ih =>
    have elsewhere : first ≠ s := by
      rintro rfl
      simp [on, named] at other
    have later : s ∈ rest := (List.mem_cons.1 stored).resolve_left (Ne.symm elsewhere)
    rw [List.map_cons, if_neg elsewhere, ih (List.nodup_cons.1 distinct).2 (fun s first t second =>
      apart s (List.mem_cons_of_mem _ first) t (List.mem_cons_of_mem _ second)) later]

theorem nodup_ids (apart : b.Apart) : (b.airing.map EchoSlot.messageId).Nodup := by
  have keys : (b.airing.map EchoSlot.key).Nodup :=
    apart.distinct.sublist (List.Sublist.map _ List.filter_sublist)
  refine List.Nodup.map_on (fun s first t second same => ?_) (List.Nodup.of_map _ keys)
  obtain ⟨stored, on⟩ := List.mem_filter.1 first
  obtain ⟨stored', on'⟩ := List.mem_filter.1 second
  exact List.inj_on_of_nodup_map keys first second (apart.apart s stored t stored' on on' same)

theorem airing_acknowledge (apart : b.Apart) (a : Acknowledgement) :
    (((b.acknowledge a).map Prod.fst).getD b).airing =
      if a.page = b.tag then b.airing.filter fun s => s.messageId ≠ a.messageId else b.airing := by
  cases acknowledged : b.acknowledge a with
  | some answer =>
    obtain ⟨retired, requests⟩ := answer
    obtain ⟨own, -, next, -⟩ := acknowledge_eq_some acknowledged
    rw [if_pos own]
    simp only [Option.map_some, Option.getD_some, next]
    exact airing_retire apart.distinct apart.apart
  | none =>
    simp only [Option.map_none, Option.getD_none]
    split
    · next own =>
      have unnamed : ∀ s ∈ b.airing, s.messageId ≠ a.messageId := by
        intro s member named
        obtain ⟨stored, on⟩ := List.mem_filter.1 member
        have found : b.slots.any (fun s => s.onAir && s.messageId == a.messageId) = true :=
          List.any_eq_true.2 ⟨s, stored, by simp [on, named]⟩
        simp [acknowledge, own, found] at acknowledged
      exact (List.filter_eq_self.2 (by simpa using unnamed)).symm
    · rfl

variable [DecidableEq κ] {key : κ} {build : UInt8 → Payload}

theorem airing_publish (apart : b.Apart)
    (published : b.publish key build = .ok (next, requests)) :
    next.airing.Perm ((b.airing.filter fun s => s.key ≠ key) ++
      [⟨key, b.freshId key, build (b.freshId key), true⟩]) := by
  obtain ⟨nextId, rfl, -, -⟩ := publish_cases published
  have stored := (Keyed.perm_store EchoSlot.key apart.distinct
    ⟨key, b.freshId key, build (b.freshId key), true⟩).filter (·.onAir)
  rw [List.filter_append, List.filter_comm] at stored
  exact stored

theorem free_of_publish (fits : b.slots.length ≤ b.capacity) (few : b.capacity ≤ 256)
    (published : b.publish key build = .ok (next, requests)) :
    b.isTaken key (b.freshId key) = false := by
  obtain ⟨-, -, -, room⟩ := publish_cases published
  refine isTaken_freshId b key ?_
  have le := List.length_filter_le (fun s : EchoSlot κ => s.key ≠ key) b.slots
  cases known : b.find? key with
  | none =>
    have := room known
    omega
  | some s =>
    have own : s.key = key := by simpa using List.find?_some known
    have fewer : (b.slots.filter fun s => s.key ≠ key).length < b.slots.length :=
      List.length_filter_lt_length_iff_exists.2 ⟨s, List.mem_of_find?_eq_some known, by simp [own]⟩
    omega

end EchoBoard

structure Broadcast (κ : Type) where
  board : EchoBoard κ
  carousel : Carousel
  history : List (Echoed κ) := []

namespace Broadcast

inductive Turn (κ : Type) where
  | publish (key : κ) (build : UInt8 → Payload)
  | acknowledge (a : Acknowledgement)
  /-- Another sender changes its pages. -/
  | ask (request : Request)
  | period

variable {κ : Type} [DecidableEq κ]

def serve (b : Broadcast κ) (requests : List Request) : Broadcast κ :=
  { b with carousel := (b.carousel.serve requests).2 }

/-- With `anew` a publication takes the tag off the air and airs all slots again, also where it
could overwrite a page. -/
def after (anew : Bool) (b : Broadcast κ) : Turn κ → Broadcast κ
  | .publish key build =>
    match b.board.publish key build with
    | .ok (board, requests) =>
      let id := b.board.freshId key
      { b with board, history := b.history ++ [Echoed.published ⟨key, id, build id⟩] }.serve
        (if anew then board.airAnew else requests)
    | .error _ => b
  | .acknowledge a =>
    let heard := { b with history := b.history ++ [Echoed.acknowledged a] }
    match b.board.acknowledge a with
    | some (board, requests) => { heard with board }.serve requests
    | none => heard
  | .ask request => b.serve [request]
  | .period => { b with carousel := b.carousel.rotate }

def run (anew : Bool) (b : Broadcast κ) (turns : List (Turn κ)) : Broadcast κ :=
  inTurn (after anew) b turns

/-- The others leave room for all the copies that the board may have. -/
def roomy (b : Broadcast κ) : Bool :=
  decide ((b.carousel.beside (· == b.board.tag)).length + b.board.capacity * b.board.replicas ≤
    b.carousel.capacity)

def admits (b : Broadcast κ) (turn : Turn κ) : Bool :=
  b.roomy && match turn with
    | .ask request => request.tag ≠ b.board.tag
    | _ => true

def permits (b : Broadcast κ) (turns : List (Turn κ)) : Bool :=
  permitsInTurn (after false) admits b turns

/-- The copies under the tag are those due, and due is what is outstanding. -/
structure Sound (fresh : EchoBoard κ) (b : Broadcast κ) : Prop where
  serves : fresh.Serves b.board
  apart : b.board.Apart
  held : (b.carousel.under (· == fresh.tag)).Perm b.board.due
  outstanding : (b.board.airing.map EchoSlot.publication).Perm
    (Echoed.outstanding fresh.tag b.history)

variable {fresh next : EchoBoard κ} {b plain : Broadcast κ} {turn : Turn κ}
  {requests : List Request} {key : κ} {build : UInt8 → Payload} {a : Acknowledgement}

theorem Sound.share (sound : b.Sound fresh) (roomy : b.roomy) :
    b.carousel.copies.Perm (b.carousel.beside (· == fresh.tag) ++ b.board.due) ∧
      (∀ copy ∈ b.carousel.beside (· == fresh.tag), copy.tag ≠ fresh.tag) ∧
      (b.carousel.beside (· == fresh.tag)).length + fresh.capacity * fresh.replicas ≤
        b.carousel.capacity := by
  refine ⟨(Carousel.perm_beside_under _ _).trans (sound.held.append_left _), fun copy member => ?_,
    ?_⟩
  · simpa using (List.mem_filter.1 member).2
  · have capacity : b.board.capacity = fresh.capacity := by rw [sound.serves.same]
    rw [← capacity, ← sound.serves.replicas_eq, ← sound.serves.tag_eq]
    exact of_decide_eq_true roomy

theorem Sound.kept (sound : b.Sound fresh) (stays : Publication κ → Bool) :
    ((b.board.airing.filter fun s => stays s.publication).map EchoSlot.publication).Perm
      ((Echoed.outstanding fresh.tag b.history).filter stays) := by
  have kept := sound.outstanding.filter stays
  rwa [List.filter_map] at kept

theorem airs_published {c : Carousel} {board : EchoBoard κ} {others : List PageCopy} (anew : Bool)
    (published : board.publish key build = .ok (next, requests)) (serves : fresh.Serves board)
    (held : c.copies.Perm (others ++ board.due)) (foreign : ∀ copy ∈ others, copy.tag ≠ fresh.tag)
    (room : others.length + fresh.capacity * fresh.replicas ≤ c.capacity) :
    c.Airs (if anew then next.airAnew else requests) (others ++ next.due) := by
  cases anew with
  | false => exact EchoBoard.airs_publish published serves held foreign room
  | true =>
    have after := EchoBoard.serves_publish published serves
    have most := after.length_due_le
    rw [EchoBoard.length_due] at most
    have same : board.tag = next.tag := serves.tag_eq.trans after.tag_eq.symm
    refine EchoBoard.airs_anew held (after.tag_eq ▸ foreign) (fun copy member => ?_)
      (Nat.le_trans (Nat.add_le_add_left most _) room)
    exact (EchoBoard.tag_of_mem_due member).trans same

omit [DecidableEq κ] in
theorem held_of_airs {c : Carousel} {others : List PageCopy} (serves : fresh.Serves next)
    (foreign : ∀ copy ∈ others, copy.tag ≠ fresh.tag)
    (airs : c.Airs requests (others ++ next.due)) :
    ((c.serve requests).2.under (· == fresh.tag)).Perm next.due :=
  (Carousel.under_of_perm airs.2.2 (by simpa using foreign) fun copy member => by
    simpa using (EchoBoard.tag_of_mem_due member).trans serves.tag_eq).1

theorem sound_publish (sound : b.Sound fresh) (roomy : b.roomy) (few : fresh.capacity ≤ 256)
    (key : κ) (build : UInt8 → Payload) : (b.after false (.publish key build)).Sound fresh := by
  cases published : b.board.publish key build with
  | error fault => simpa only [after, published] using sound
  | ok answer =>
    obtain ⟨board, requests⟩ := answer
    simp only [after, published]
    obtain ⟨held, foreign, room⟩ := sound.share roomy
    have serves := EchoBoard.serves_publish published sound.serves
    have airs := airs_published false published sound.serves held foreign room
    have capacity : b.board.capacity = fresh.capacity := by rw [sound.serves.same]
    have free := EchoBoard.free_of_publish (capacity ▸ sound.serves.fits) (capacity ▸ few) published
    refine ⟨serves, EchoBoard.apart_publish sound.apart free published,
      held_of_airs serves foreign airs, ?_⟩
    have airing := (EchoBoard.airing_publish sound.apart published).map EchoSlot.publication
    rw [List.map_append] at airing
    rw [serve, Echoed.outstanding, inTurn_concat]
    exact airing.trans ((sound.kept fun p => p.key ≠ key).append_right _)

theorem sound_acknowledge (sound : b.Sound fresh) (roomy : b.roomy) (a : Acknowledgement) :
    (b.after false (.acknowledge a)).Sound fresh := by
  have ledger : ((((b.board.acknowledge a).map Prod.fst).getD b.board).airing.map
      EchoSlot.publication).Perm
        (Echoed.outstanding fresh.tag (b.history ++ [.acknowledged a])) := by
    rw [EchoBoard.airing_acknowledge sound.apart, Echoed.outstanding, inTurn_concat, Echoed.settle,
      sound.serves.tag_eq]
    split
    · exact sound.kept fun p => p.messageId ≠ a.messageId
    · exact sound.outstanding
  cases acknowledged : b.board.acknowledge a with
  | none =>
    rw [acknowledged] at ledger
    simp only [after, acknowledged]
    exact ⟨sound.serves, sound.apart, sound.held, ledger⟩
  | some answer =>
    obtain ⟨board, requests⟩ := answer
    rw [acknowledged] at ledger
    simp only [after, acknowledged]
    obtain ⟨held, foreign, room⟩ := sound.share roomy
    obtain ⟨serves, airs⟩ := EchoBoard.airs_acknowledge acknowledged sound.serves held foreign room
    exact ⟨serves, EchoBoard.apart_acknowledge sound.apart acknowledged,
      held_of_airs serves foreign airs, ledger⟩

theorem sound_after (sound : b.Sound fresh) (few : fresh.capacity ≤ 256)
    (admitted : b.admits turn) : (b.after false turn).Sound fresh := by
  obtain ⟨roomy, own⟩ := Bool.and_eq_true_iff.1 admitted
  cases turn with
  | publish key build => exact sound_publish sound roomy few key build
  | acknowledge a => exact sound_acknowledge sound roomy a
  | ask request =>
    have foreign : (request.tag == fresh.tag) = false := by
      simpa [sound.serves.tag_eq] using own
    exact ⟨sound.serves, sound.apart, (Carousel.under_serve foreign).trans sound.held,
      sound.outstanding⟩
  | period =>
    have copies : b.carousel.rotate.copies = b.carousel.copies := by simp [Carousel.copies]
    refine ⟨sound.serves, sound.apart, ?_, sound.outstanding⟩
    simpa only [after, Carousel.under, copies] using sound.held

/-- The same but for the slots of the carousel in which the copies lie. -/
structure Twins (b plain : Broadcast κ) : Prop where
  board : plain.board = b.board
  history : plain.history = b.history
  carousel : b.carousel.Alike plain.carousel

/-- Airing everything anew makes no other difference than overwriting a page. -/
theorem twins_after (twins : b.Twins plain) (sound : b.Sound fresh) (roomy : b.roomy) :
    (b.after false turn).Twins (plain.after true turn) := by
  obtain ⟨held, foreign, room⟩ := sound.share roomy
  have held' := twins.carousel.copies.trans held
  have room' := twins.carousel.capacity ▸ room
  cases turn with
  | publish key build =>
    simp only [after, twins.board, twins.history]
    cases published : b.board.publish key build with
    | error fault => exact twins
    | ok answer =>
      have overwritten := airs_published false published sound.serves held foreign room
      have anew := airs_published true published sound.serves held' foreign room'
      exact ⟨rfl, rfl, Carousel.alike_of_airs twins.carousel overwritten anew⟩
  | acknowledge a =>
    simp only [after, twins.board, twins.history]
    cases acknowledged : b.board.acknowledge a with
    | none => exact ⟨rfl, rfl, twins.carousel⟩
    | some answer =>
      have first := EchoBoard.airs_acknowledge acknowledged sound.serves held foreign room
      have second := EchoBoard.airs_acknowledge acknowledged sound.serves held' foreign room'
      exact ⟨rfl, rfl, Carousel.alike_of_airs twins.carousel first.2 second.2⟩
  | ask request =>
    exact ⟨twins.board, twins.history, Carousel.alike_serve twins.carousel request⟩
  | period => exact ⟨twins.board, twins.history, Carousel.alike_rotate twins.carousel⟩

theorem sound_run {turns : List (Turn κ)} (sound : b.Sound fresh) (twins : b.Twins plain)
    (few : fresh.capacity ≤ 256) (permitted : b.permits turns) :
    (b.run false turns).Sound fresh ∧ (b.run false turns).Twins (plain.run true turns) := by
  -- Both at once: that the two stay alike rests on the room that there is on a sound one.
  refine inTurn_kept
    (motive := fun turns b => b.Sound fresh ∧ b.Twins (plain.run true turns)) ⟨sound, twins⟩ ?_
    permitted
  intro earlier b turn ⟨sound, twins⟩ admitted
  rw [run, inTurn_concat]
  have roomy := (Bool.and_eq_true_iff.1 admitted).1
  exact ⟨sound_after sound few admitted, twins_after twins sound roomy⟩

theorem sound_start {board : EchoBoard κ} {carousel : Carousel} (fresh : board.slots = [])
    (foreign : ∀ copy ∈ carousel.copies, copy.tag ≠ board.tag) :
    Sound board { board, carousel } := by
  have silent : board.airing = [] := by simp [EchoBoard.airing, fresh]
  refine ⟨EchoBoard.serves_self (by simp [fresh]), ⟨by simp [fresh], by simp [fresh]⟩, .of_eq ?_,
    .of_eq (by rw [silent]; rfl)⟩
  have none : board.due = [] := by simp [EchoBoard.due, EchoBoard.pages, silent]
  rw [none]
  exact List.filter_eq_nil_iff.2 (by simpa using foreign)

theorem history_after {anew : Bool} {p : Publication κ}
    (published : Echoed.published p ∈ (b.after anew turn).history) :
    Echoed.published p ∈ b.history ∨
      ∃ build, turn = .publish p.key build ∧ p.payload = build p.messageId := by
  cases turn with
  | publish key build =>
    simp only [after] at published
    split at published
    · rcases List.mem_append.1 published with old | new
      · exact .inl old
      · obtain rfl := Echoed.published.inj (List.mem_singleton.1 new)
        exact .inr ⟨build, rfl, rfl⟩
    · exact .inl published
  | acknowledge a =>
    simp only [after] at published
    have heard : Echoed.published p ∈ b.history ++ [Echoed.acknowledged a] := by
      split at published
      · exact published
      · exact published
    exact .inl (by simpa using heard)
  | ask request => exact .inl published
  | period => exact .inl published

theorem history_run {anew : Bool} {turns : List (Turn κ)} {p : Publication κ}
    (published : Echoed.published p ∈ (b.run anew turns).history) :
    Echoed.published p ∈ b.history ∨
      ∃ build, Turn.publish p.key build ∈ turns ∧ p.payload = build p.messageId := by
  revert published
  refine inTurn_induction (motive := fun turns (t : Broadcast κ) => Echoed.published p ∈ t.history →
    Echoed.published p ∈ b.history ∨
      ∃ build, Turn.publish p.key build ∈ turns ∧ p.payload = build p.messageId) .inl turns ?_
  intro earlier turn later split ih published
  rcases history_after published with before | ⟨build, rfl, built⟩
  · exact (ih before).imp_right fun ⟨build, among, built⟩ =>
      ⟨build, List.mem_append_left _ among, built⟩
  · exact .inr ⟨build, List.mem_concat_self, built⟩

omit [DecidableEq κ] in
theorem due_eq_flatMap (board : EchoBoard κ) :
    board.due = (board.airing.map EchoSlot.publication).flatMap fun p =>
      List.replicate board.replicas ⟨board.tag, p.payload⟩ := by
  rw [EchoBoard.due, EchoBoard.pages, List.flatMap_map, List.flatMap_map]
  rfl

theorem superseded (sound : b.Sound fresh)
    (acknowledged : b.board.acknowledge a = some (next, requests)) :
    a.page = fresh.tag ∧ ∃ s ∈ b.board.airing, s.messageId = a.messageId ∧
      Echoed.published s.publication ∈ b.history ∧
      next.slots = b.board.slots.map fun t => if t = s then { t with onAir := false } else t := by
  obtain ⟨page, ⟨s, stored, on, named⟩, next, -⟩ := EchoBoard.acknowledge_eq_some acknowledged
  have airs : s ∈ b.board.airing := List.mem_filter.2 ⟨stored, on⟩
  have outstanding := sound.outstanding.mem_iff.1 (List.mem_map_of_mem airs)
  obtain ⟨before, after, split, -⟩ := Echoed.mem_outstanding_iff.1 outstanding
  refine ⟨page.trans sound.serves.tag_eq, s, airs, named, ?_, ?_⟩
  · rw [split]
    exact List.mem_append_right _ List.mem_cons_self
  · rw [next]
    exact EchoBoard.retire_eq_map sound.apart.distinct sound.apart.apart stored on named

/-- Whatever is published and acknowledged, and whatever other senders do beside: the copies under
the tag are those of every subject's latest page that is not acknowledged since, the same as if each
change aired all slots anew, and an acknowledgment supersedes the one slot whose page was built for
its id. -/
theorem copies_of_outstanding (board : EchoBoard κ) (carousel : Carousel) (turns : List (Turn κ))
    (fresh : board.slots = []) (few : board.capacity ≤ 256)
    (foreign : ∀ copy ∈ carousel.copies, copy.tag ≠ board.tag)
    (permitted : (Broadcast.mk board carousel []).permits turns) :
    let b := (Broadcast.mk board carousel []).run false turns
    let plain := (Broadcast.mk board carousel []).run true turns
    (b.carousel.under (· == board.tag)).Perm
      ((Echoed.outstanding board.tag b.history).flatMap fun p =>
        List.replicate board.replicas ⟨board.tag, p.payload⟩) ∧
    plain.board = b.board ∧ plain.carousel.copies.Perm b.carousel.copies ∧
    (b.board.airing.map EchoSlot.messageId).Nodup ∧
    ∀ a next requests, b.board.acknowledge a = some (next, requests) →
      a.page = board.tag ∧ ∃ s ∈ b.board.airing, s.messageId = a.messageId ∧
        (∃ build, Turn.publish s.key build ∈ turns ∧ s.payload = build a.messageId) ∧
        next.slots = b.board.slots.map fun t => if t = s then { t with onAir := false } else t := by
  intro b plain
  have twins : Twins (Broadcast.mk board carousel []) { board, carousel } := ⟨rfl, rfl, .refl _⟩
  obtain ⟨sound, twins⟩ := sound_run (sound_start fresh foreign) twins few permitted
  refine ⟨?_, twins.board, twins.carousel.copies, EchoBoard.nodup_ids sound.apart, ?_⟩
  · have due := due_eq_flatMap b.board
    rw [sound.serves.tag_eq, sound.serves.replicas_eq] at due
    exact (sound.held.trans (.of_eq due)).trans (sound.outstanding.flatMap_right _)
  · intro a next requests acknowledged
    obtain ⟨page, s, airs, named, published, slots⟩ := superseded sound acknowledged
    refine ⟨page, s, airs, named, ?_, slots⟩
    rcases history_run published with before | ⟨build, turn, built⟩
    · contradiction
    · exact ⟨build, turn, named ▸ built⟩

def signals : EchoBoard NodeId :=
  { name := "signals", tag := .indicator, replicas := 2, capacity := 2, nextId := 255 }

/-- Beside another page the first subject is acknowledged, the second is then alone on air and
overwritten, and the first comes back; an old acknowledgment comes in late. -/
def signalling : List (Turn NodeId) :=
  let page (node : NodeId) (function : LedFunction) : UInt8 → Payload :=
    (Report.indicator node function .red).page
  [.publish 1 (page 1 .blinking), .ask (.broadcast .activity Payload.silence 2),
    .publish 2 (page 2 .solid), .acknowledge ⟨.indicator, 255⟩, .publish 2 (page 2 .blinking),
    .period, .publish 1 (page 1 .solid), .acknowledge ⟨.indicator, 0⟩]

theorem copies_of_outstanding_signalling :
    let start : Broadcast NodeId := ⟨signals, .empty 6, []⟩
    let b := start.run false signalling
    let plain := start.run true signalling
    start.permits signalling ∧
      (Echoed.outstanding .indicator b.history).map Publication.messageId = [1, 2] ∧
      (b.carousel.under (· == .indicator)).Perm
        ((Echoed.outstanding .indicator b.history).flatMap fun p =>
          List.replicate 2 ⟨.indicator, p.payload⟩) ∧
      plain.carousel.copies.Perm b.carousel.copies ∧
      (b.board.airing.map EchoSlot.messageId).Nodup := by
  intro start b plain
  have permitted : start.permits signalling = true := by decide +kernel
  obtain ⟨copies, -, alike, ids, -⟩ := copies_of_outstanding signals (.empty 6) signalling rfl
    (by decide) (by decide) permitted
  exact ⟨permitted, by decide +kernel, copies, alike, ids⟩

end Broadcast

end WildlifeWarning
