import WildlifeWarning.Fault

/-! Steps on a state that may be refused. What a step did until it was refused stays done.
A step is known by `after`, its result and the state after it; the lemmas say what that is for each
way of building a step. -/

namespace WildlifeWarning

abbrev Step (σ : Type) := ExceptT Fault (StateM σ)

namespace Step

variable {σ τ α β : Type}

def after (step : Step σ α) (s : σ) : Except Fault α × σ := step.run.run s

def ofAfter (f : σ → Except Fault α × σ) : Step σ α := ExceptT.mk f

def within (part : σ → τ) (put : σ → τ → σ) (step : Step τ α) : Step σ α :=
  ofAfter fun s =>
    let (result, t) := step.after (part s)
    (result, put s t)

@[simp] theorem after_ofAfter (f : σ → Except Fault α × σ) (s : σ) :
    (ofAfter f).after s = f s := rfl

theorem after_within (part : σ → τ) (put : σ → τ → σ) (step : Step τ α) (s : σ) :
    (within part put step).after s =
      ((step.after (part s)).1, put s (step.after (part s)).2) := rfl

@[simp] theorem after_pure (a : α) (s : σ) : (pure a : Step σ α).after s = (.ok a, s) := rfl

@[simp] theorem after_throw (fault : Fault) (s : σ) :
    (throw fault : Step σ α).after s = (.error fault, s) := rfl

@[simp] theorem after_get (s : σ) : (get : Step σ σ).after s = (.ok s, s) := rfl

@[simp] theorem after_set (s t : σ) : (set t : Step σ Unit).after s = (.ok (), t) := rfl

@[simp] theorem after_modify (f : σ → σ) (s : σ) :
    (modify f : Step σ Unit).after s = (.ok (), f s) := rfl

theorem after_bind (step : Step σ α) (next : α → Step σ β) (s : σ) :
    (step >>= next).after s =
      match step.after s with
      | (.ok a, t) => (next a).after t
      | (.error fault, t) => (.error fault, t) := by
  show ExceptT.bindCont next (step.after s).1 (step.after s).2 = _
  rcases step.after s with ⟨_ | _, t⟩ <;> rfl

@[simp] theorem after_forM_nil (f : α → Step σ PUnit) (s : σ) :
    (([] : List α).forM f).after s = (.ok ⟨⟩, s) := rfl

theorem after_forM_cons (f : α → Step σ PUnit) (a : α) (rest : List α) (s : σ) :
    ((a :: rest).forM f).after s = (f a >>= fun _ => rest.forM f).after s := rfl

end Step

end WildlifeWarning
