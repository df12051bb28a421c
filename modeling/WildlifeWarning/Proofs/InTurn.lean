import Mathlib.Data.List.Induction

/-! Runs: a step for each of a list of inputs, one after the other.
What holds at first and is kept by each step, of the inputs so far and the state that they led to,
holds after all of them. Where a step keeps it only for inputs that the state admits, every input
has to be admitted by the state that it finds. -/

namespace WildlifeWarning

variable {σ ι : Type*} {step : σ → ι → σ} {admits : σ → ι → Bool} {s : σ}

def inTurn (step : σ → ι → σ) (s : σ) (inputs : List ι) : σ := inputs.foldl step s

@[simp] theorem inTurn_nil (step : σ → ι → σ) (s : σ) : inTurn step s [] = s := rfl

theorem inTurn_append (step : σ → ι → σ) (s : σ) (first rest : List ι) :
    inTurn step s (first ++ rest) = inTurn step (inTurn step s first) rest := List.foldl_append

theorem inTurn_concat (step : σ → ι → σ) (s : σ) (inputs : List ι) (last : ι) :
    inTurn step s (inputs ++ [last]) = step (inTurn step s inputs) last :=
  inTurn_append step s inputs [last]

/-- Each step has to be taken only where it stands among the inputs. -/
theorem inTurn_induction {motive : List ι → σ → Prop} (start : motive [] s) (inputs : List ι)
    (next : ∀ earlier input later, inputs = earlier ++ input :: later →
      motive earlier (inTurn step s earlier) →
      motive (earlier ++ [input]) (step (inTurn step s earlier) input)) :
    motive inputs (inTurn step s inputs) := by
  have so_far : ∀ done rest, inputs = done ++ rest → motive done (inTurn step s done) := by
    intro done
    induction done using List.reverseRecOn with
    | nil => exact fun _ _ => start
    | append_singleton done input ih =>
      intro rest split
      rw [List.append_assoc, List.singleton_append] at split
      rw [inTurn_concat]
      exact next done input rest split (ih _ split)
  exact so_far inputs [] (List.append_nil inputs).symm

/-- Every input is admitted by the state that it finds. -/
def permitsInTurn (step : σ → ι → σ) (admits : σ → ι → Bool) (s : σ) : List ι → Bool
  | [] => true
  | input :: rest => admits s input && permitsInTurn step admits (step s input) rest

theorem permitsInTurn_cons {input : ι} {rest : List ι} :
    permitsInTurn step admits s (input :: rest) ↔
      admits s input ∧ permitsInTurn step admits (step s input) rest := by
  rw [permitsInTurn, Bool.and_eq_true]

theorem permitsInTurn_append {first rest : List ι} :
    permitsInTurn step admits s (first ++ rest) ↔
      permitsInTurn step admits s first ∧
        permitsInTurn step admits (inTurn step s first) rest := by
  induction first generalizing s with
  | nil => simp [permitsInTurn]
  | cons input first ih =>
    rw [List.cons_append, permitsInTurn_cons, permitsInTurn_cons, ih, and_assoc]
    rfl

theorem inTurn_kept {motive : List ι → σ → Prop} {inputs : List ι} (start : motive [] s)
    (next : ∀ earlier s input, motive earlier s → admits s input →
      motive (earlier ++ [input]) (step s input))
    (permitted : permitsInTurn step admits s inputs) : motive inputs (inTurn step s inputs) := by
  refine inTurn_induction start inputs fun earlier input later split before => ?_
  rw [split, permitsInTurn_append, permitsInTurn_cons] at permitted
  exact next earlier _ input before permitted.2.1

end WildlifeWarning
