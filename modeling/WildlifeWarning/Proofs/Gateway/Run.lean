import WildlifeWarning.Gateway.Basic
import WildlifeWarning.Proofs.InTurn

/-! Runs of a gateway: stimuli one after the other, each on what the ones before it left, whether
they went through or were refused. In service, the caller takes the commands in between. -/

namespace WildlifeWarning

/-- What happens to a gateway in service: its stimuli, and the caller taking the commands. -/
inductive Call where
  | stimulus (s : Stimulus)
  | drain
  deriving DecidableEq

def Stimulus.placement? : Stimulus → Option Placement
  | .placement p => some p
  | .placementPage payload => (Placement.ofPage payload).toOption
  | _ => none

namespace Gateway

/-- The gateway after the stimuli, whatever each of them returned. -/
def after (g : Gateway) (stimuli : List Stimulus) : Gateway :=
  inTurn (fun g s => ((on s).after g).2) g stimuli

def accepts (g : Gateway) : List Stimulus → Bool
  | [] => true
  | s :: rest =>
    match (on s).after g with
    | (.ok (), next) => next.accepts rest
    | (.error _, _) => false

@[simp] theorem after_nil (g : Gateway) : g.after [] = g := rfl

@[simp] theorem after_cons (g : Gateway) (s : Stimulus) (rest : List Stimulus) :
    g.after (s :: rest) = ((on s).after g).2.after rest := rfl

@[simp] theorem accepts_nil (g : Gateway) : g.accepts [] = true := rfl

theorem accepts_cons {g : Gateway} {s : Stimulus} {rest : List Stimulus} :
    g.accepts (s :: rest) ↔ ((on s).after g).1 = .ok () ∧ ((on s).after g).2.accepts rest := by
  rw [accepts]
  rcases (on s).after g with ⟨_ | _, next⟩ <;> simp

theorem after_append (g : Gateway) (first rest : List Stimulus) :
    g.after (first ++ rest) = (g.after first).after rest := inTurn_append ..

theorem accepts_append (g : Gateway) (first rest : List Stimulus) :
    g.accepts (first ++ rest) ↔ g.accepts first ∧ (g.after first).accepts rest := by
  induction first generalizing g with
  | nil => simp
  | cons s first ih => rw [List.cons_append, accepts_cons, accepts_cons, ih, and_assoc, after_cons]

def take (g : Gateway) : Call → Gateway
  | .stimulus s => ((on s).after g).2
  | .drain => g.drain.2

def served (g : Gateway) (calls : List Call) : Gateway := inTurn take g calls

@[simp] theorem served_nil (g : Gateway) : g.served [] = g := rfl

theorem served_concat (g : Gateway) (calls : List Call) (c : Call) :
    g.served (calls ++ [c]) = (g.served calls).take c := inTurn_concat ..

/-- What holds at first and is kept by every call in its place holds in every place. -/
theorem served_induction {I : Gateway → Prop} {g : Gateway} {calls : List Call} (start : I g)
    (step : ∀ earlier c later, calls = earlier ++ c :: later → I (g.served earlier) →
      I ((g.served earlier).take c))
    (earlier later : List Call) (split : calls = earlier ++ later) : I (g.served earlier) := by
  refine inTurn_induction (motive := fun _ g => I g) start earlier fun first c rest within => ?_
  exact step first c (rest ++ later) (by rw [split, within, List.append_assoc, List.cons_append])

/-- The placements that come in, stored or not. -/
def provisioned (calls : List Call) : List Placement :=
  calls.filterMap fun
    | .stimulus s => s.placement?
    | .drain => none

/-- Every sensor event is of a sensor that its node carries at the time. -/
def hearsOwn (g : Gateway) : List Call → Bool
  | [] => true
  | .stimulus (.sensor event) :: rest =>
    g.registry.sensors.contains event.key && (g.take (.stimulus (.sensor event))).hearsOwn rest
  | c :: rest => (g.take c).hearsOwn rest

theorem build_eq_ok {p : Parameters} {d : Deployment} {g : Gateway} (h : build p d = .ok g) :
    p.misconfiguration? = none ∧ p.grid.cols = 2 ∧ p.grid.rows = 2 ∧ g = fresh p d {} := by
  unfold build at h
  cases valid : p.validate with
  | error fault =>
    rw [valid] at h
    contradiction
  | ok u =>
    rw [valid] at h
    change (AlertPanel.ofParameters p >>= _) = _ at h
    unfold AlertPanel.ofParameters at h
    split at h
    · contradiction
    · next cells =>
      have two : p.grid.cols = 2 ∧ p.grid.rows = 2 := by simpa using cells
      exact ⟨Parameters.validate_eq_ok_iff.1 valid, two.1, two.2, (Except.ok.inj h).symm⟩

theorem build_deployed (d : Deployment) : build {} d = .ok (fresh {} d {}) := by
  rw [build, Parameters.validate_eq_ok_iff.2 Parameters.misconfiguration?_default]
  rfl

theorem build_default : build {} {} = .ok (fresh {} {} {}) := build_deployed {}

def watch : Stimulus := .placement ⟨1, ⟨0, 1⟩, .zero, Facing.down.octant, .pirPir⟩

def motion (detected : Bool) : Stimulus := .sensor ⟨1, Facing.up.octant, .motion detected⟩

def sighting : List Stimulus := [watch, motion true, .second]

end Gateway

end WildlifeWarning
