import WildlifeWarning.Proofs.Gateway.Outbox
import WildlifeWarning.Session

/-! Which commands a run sends on.
A gateway from which nobody takes the commands keeps all of them in its outbox, so the commands sent
are compared with that: they are those of the turns that went through. A fault ends the run with
the commands of its own turn still in the outbox. -/

namespace WildlifeWarning.Session

open Gateway

def heard : List Turn → List Stimulus
  | .stimulus s :: rest => s :: heard rest
  | _ => []

/-- The gateway `g` has kept what was sent on, and there is nothing that is not. -/
structure Kept (g : Gateway) (s : Session) : Prop where
  sent : g = s.gateway.behind s.sent.toList
  drained : s.gateway.outbox = []

variable {g : Gateway} {s : Session} {stimulus : Stimulus} {fault : Fault}

theorem Kept.outbox_eq (kept : Kept g s) : g.outbox = s.sent.toList := by
  rw [kept.sent, behind, kept.drained, List.append_nil]

theorem Kept.after_eq (kept : Kept g s) (stimulus : Stimulus) :
    (on stimulus).after g = (((on stimulus).after s.gateway).1,
      ((on stimulus).after s.gateway).2.behind s.sent.toList) :=
  (appends_on stimulus).at kept.sent

theorem Kept.take_ok (kept : Kept g s) (through : ((on stimulus).after g).1 = .ok ()) :
    ∃ t, s.take stimulus = (.ok (), t) ∧ Kept ((on stimulus).after g).2 t := by
  have same := kept.after_eq stimulus
  rw [same] at through ⊢
  rw [take]
  generalize (on stimulus).after s.gateway = outcome at through ⊢
  obtain ⟨result, t⟩ := outcome
  obtain rfl : result = .ok () := through
  refine ⟨_, rfl, ?_, rfl⟩
  simp [forward, drain, behind]

theorem Kept.take_error (kept : Kept g s) (refused : ((on stimulus).after g).1 = .error fault) :
    ∃ t, s.take stimulus = (.error fault, t) ∧ t.sent = s.sent ∧
      ((on stimulus).after g).2 = t.gateway.behind s.sent.toList := by
  have same := kept.after_eq stimulus
  rw [same] at refused ⊢
  rw [take]
  generalize (on stimulus).after s.gateway = outcome at refused ⊢
  obtain ⟨result, t⟩ := outcome
  obtain rfl : result = .error fault := refused
  exact ⟨_, rfl, rfl, rfl⟩

/-- How a run can come out: every stimulus went through and all commands are sent, or one was
refused and those before it are sent. -/
inductive Outcome (g : Gateway) : List Stimulus → Except Fault Unit × Session → Prop where
  | through {stimuli : List Stimulus} {s : Session} (accepted : g.accepts stimuli)
      (sent : s.sent.toList = (g.after stimuli).outbox) : Outcome g stimuli (.ok (), s)
  | refused {earlier later : List Stimulus} {stimulus : Stimulus} {fault : Fault} {s : Session}
      (accepted : g.accepts earlier)
      (fails : ((on stimulus).after (g.after earlier)).1 = .error fault)
      (sent : s.sent.toList = (g.after earlier).outbox)
      (left : (g.after (earlier ++ [stimulus])).outbox = s.sent.toList ++ s.gateway.outbox) :
      Outcome g (earlier ++ stimulus :: later) (.error fault, s)

theorem Outcome.cons {stimuli : List Stimulus} {outcome : Except Fault Unit × Session}
    (through : ((on stimulus).after g).1 = .ok ())
    (rest : Outcome ((on stimulus).after g).2 stimuli outcome) :
    Outcome g (stimulus :: stimuli) outcome := by
  cases rest with
  | through accepted sent => exact .through (accepts_cons.2 ⟨through, accepted⟩) sent
  | refused accepted fails sent left =>
    rw [← List.cons_append]
    exact .refused (accepts_cons.2 ⟨through, accepted⟩) fails sent left

theorem outcome_run (kept : Kept g s) (turns : List Turn) :
    Outcome g (heard turns) (run turns s) := by
  induction turns generalizing g s with
  | nil => exact .through rfl kept.outbox_eq.symm
  | cons turn rest ih =>
    cases turn with
    | shutdown => exact .through rfl kept.outbox_eq.symm
    | stimulus stimulus =>
      rw [heard, run]
      cases result : ((on stimulus).after g).1 with
      | ok u =>
        obtain ⟨t, taken, kept⟩ := kept.take_ok result
        rw [taken]
        exact (ih kept).cons result
      | error fault =>
        obtain ⟨t, taken, sent, left⟩ := kept.take_error result
        rw [taken, ← List.nil_append (stimulus :: heard rest)]
        refine .refused rfl result ?_ ?_
        · rw [sent, after_nil, kept.outbox_eq]
        · rw [List.nil_append, after_cons, after_nil, left, sent]
          rfl

/-- In whatever order the turns come: a run that ends without a fault has sent exactly the commands
that the gateway gave, in their order. A run that ends with a fault has sent those of the turns
before; what the refused stimulus gave is left behind with the gateway. -/
theorem commands_sent (g : Gateway) (empty : g.outbox = []) (turns : List Turn) :
    let outcome := run turns ⟨g, #[]⟩
    (outcome.1 = .ok () →
      g.accepts (heard turns) ∧ outcome.2.sent.toList = (g.after (heard turns)).outbox) ∧
    ∀ fault, outcome.1 = .error fault → ∃ earlier stimulus later,
      heard turns = earlier ++ stimulus :: later ∧ g.accepts earlier ∧
      ((on stimulus).after (g.after earlier)).1 = .error fault ∧
      outcome.2.sent.toList = (g.after earlier).outbox ∧
      (g.after (earlier ++ [stimulus])).outbox =
        outcome.2.sent.toList ++ outcome.2.gateway.outbox := by
  intro outcome
  have start : Kept g ⟨g, #[]⟩ := ⟨rfl, empty⟩
  have ends : Outcome g (heard turns) outcome := outcome_run start turns
  clear_value outcome
  generalize heard turns = stimuli at ends
  cases ends with
  | through accepted sent => exact ⟨fun _ => ⟨accepted, sent⟩, fun _ failed => by contradiction⟩
  | refused accepted fails sent left =>
    refine ⟨fun ok => by contradiction, fun fault failed => ?_⟩
    obtain rfl := Except.error.inj failed
    exact ⟨_, _, _, rfl, accepted, fails, sent, left⟩

def stood (node : NodeId) (x y : Int8) : Turn :=
  .stimulus (.placement ⟨node, ⟨x, y⟩, .zero, Facing.down.octant, .pirPir⟩)

def sighted : List Turn :=
  [stood 1 (-1) 1, stood 2 0 1, .stimulus .second,
    .stimulus (.sensor ⟨2, Facing.up.octant, .motion true⟩)]

def joined : List Turn := sighted ++ [stood 3 1 1, .stimulus .second]

/-- All that is on air when the third node comes takes eight pages. -/
def tight : Gateway := fresh {} { pagePoolCapacity := 8 } {}

theorem commands_sent_sighted :
    let calm := sighted ++ [.stimulus .second, .shutdown, .stimulus .second]
    (run calm ⟨tight, #[]⟩).1 = .ok () ∧
      (run calm ⟨tight, #[]⟩).2.sent.toList = (tight.after (heard calm)).outbox ∧
      (run calm ⟨tight, #[]⟩).2.sent.size = 4 ∧
      ∃ earlier stimulus later, heard joined = earlier ++ stimulus :: later ∧
        tight.accepts earlier ∧
        (run joined ⟨tight, #[]⟩).2.sent.toList = (tight.after earlier).outbox := by
  intro calm
  have ok : (run calm ⟨tight, #[]⟩).1 = .ok () := by decide +kernel
  have fault : (run joined ⟨tight, #[]⟩).1 = .error (.capacityExhausted "page pool" 8) := by
    decide +kernel
  obtain ⟨earlier, stimulus, later, split, accepted, -, before, -⟩ :=
    (commands_sent tight rfl joined).2 _ fault
  exact ⟨ok, ((commands_sent tight rfl calm).1 ok).2, by decide +kernel, earlier, stimulus, later,
    split, accepted, before⟩

/-- The last second tells two nodes of the alarm and fails at the third node, and so the two never
hear of it. -/
theorem alarms_left_behind :
    let stopped := run joined ⟨tight, #[]⟩
    stopped.1 = .error (.capacityExhausted "page pool" 8) ∧
      stopped.2.sent.toList = [.ofLevel 1 .idle, .ofLevel 2 .idle] ∧
      (tight.after (heard joined)).outbox =
        stopped.2.sent.toList ++ [.ofLevel 1 .alarm, .ofLevel 2 .alarm] := by
  decide +kernel

end WildlifeWarning.Session
