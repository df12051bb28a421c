import WildlifeWarning.Step

/-! What holds after a step, whether it goes through or is refused.
`Ends` speaks of one state and comes apart along the way in which a step is built. `Keeps` is an
invariant, with what is left of it where the step is refused. -/

namespace WildlifeWarning.Step

variable {σ τ α β : Type} {Q Q' : α → σ → Prop} {E E' : Fault → σ → Prop} {s : σ}

/-- From `s` the step ends in `Q` with its value or in `E` with its fault. -/
def Ends (step : Step σ α) (s : σ) (Q : α → σ → Prop) (E : Fault → σ → Prop) : Prop :=
  match step.after s with
  | (.ok a, t) => Q a t
  | (.error fault, t) => E fault t

theorem ends_iff {step : Step σ α} :
    step.Ends s Q E ↔
      (∀ a, (step.after s).1 = .ok a → Q a (step.after s).2) ∧
      ∀ fault, (step.after s).1 = .error fault → E fault (step.after s).2 := by
  unfold Ends
  rcases step.after s with ⟨_ | _, t⟩ <;> simp

theorem Ends.of_ok {step : Step σ α} {a : α} (h : step.Ends s Q E)
    (ok : (step.after s).1 = .ok a) : Q a (step.after s).2 := (ends_iff.1 h).1 a ok

theorem Ends.of_error {step : Step σ α} {fault : Fault} (h : step.Ends s Q E)
    (error : (step.after s).1 = .error fault) : E fault (step.after s).2 :=
  (ends_iff.1 h).2 fault error

theorem Ends.mono {step : Step σ α} (h : step.Ends s Q E) (value : ∀ a t, Q a t → Q' a t)
    (refused : ∀ fault t, E fault t → E' fault t) : step.Ends s Q' E' :=
  ends_iff.2 ⟨fun _ ok => value _ _ (h.of_ok ok), fun _ error => refused _ _ (h.of_error error)⟩

theorem Ends.and {step : Step σ α} (first : step.Ends s Q E) (second : step.Ends s Q' E') :
    step.Ends s (fun a t => Q a t ∧ Q' a t) fun fault t => E fault t ∧ E' fault t :=
  ends_iff.2 ⟨fun _ ok => ⟨first.of_ok ok, second.of_ok ok⟩,
    fun _ error => ⟨first.of_error error, second.of_error error⟩⟩

theorem Ends.after {step : Step σ α} {P : σ → Prop} (h : step.Ends s (fun _ => P) fun _ => P) :
    P (step.after s).2 := by
  cases result : (step.after s).1 with
  | ok a => exact h.of_ok result
  | error fault => exact h.of_error result

theorem Ends.self {step : Step σ α} (h : step.Ends s Q E) :
    step.Ends s (fun a t => (step.after s).1 = .ok a ∧ Q a t)
      fun fault t => (step.after s).1 = .error fault ∧ E fault t :=
  ends_iff.2 ⟨fun _ ok => ⟨ok, h.of_ok ok⟩, fun _ error => ⟨error, h.of_error error⟩⟩

@[simp] theorem ends_pure (a : α) : (pure a : Step σ α).Ends s Q E ↔ Q a s := Iff.rfl

@[simp] theorem ends_throw (fault : Fault) :
    (throw fault : Step σ α).Ends s Q E ↔ E fault s := Iff.rfl

@[simp] theorem ends_get {Q : σ → σ → Prop} : (get : Step σ σ).Ends s Q E ↔ Q s s := Iff.rfl

@[simp] theorem ends_set {Q : Unit → σ → Prop} (t : σ) :
    (set t : Step σ Unit).Ends s Q E ↔ Q () t := Iff.rfl

@[simp] theorem ends_modify {Q : Unit → σ → Prop} (f : σ → σ) :
    (modify f : Step σ Unit).Ends s Q E ↔ Q () (f s) := Iff.rfl

@[simp] theorem ends_bind {Q : β → σ → Prop} (step : Step σ α) (next : α → Step σ β) :
    (step >>= next).Ends s Q E ↔ step.Ends s (fun a t => (next a).Ends t Q E) E := by
  unfold Ends
  rw [after_bind]
  rcases step.after s with ⟨_ | _, t⟩ <;> rfl

@[simp] theorem ends_within (part : σ → τ) (put : σ → τ → σ) (step : Step τ α) :
    (within part put step).Ends s Q E ↔
      step.Ends (part s) (fun a t => Q a (put s t)) (fun fault t => E fault (put s t)) := by
  unfold Ends
  rw [after_within]
  rcases step.after (part s) with ⟨_ | _, t⟩ <;> rfl

/-- A loop with an invariant on the items done so far. -/
theorem Ends.forM {f : α → Step σ PUnit} {I : List α → σ → Prop}
    (body : ∀ done a t, I done t → (f a).Ends t (fun _ => I (done ++ [a])) E)
    (done : List α) (start : I done s) (items : List α) :
    (items.forM f).Ends s (fun _ => I (done ++ items)) E := by
  induction items generalizing done s with
  | nil => simpa [Ends] using start
  | cons a rest ih =>
    have first := body done a s start
    unfold Ends
    rw [after_forM_cons]
    exact (ends_bind _ _).2 (first.mono (fun _ t h => by simpa using ih _ h) fun _ _ h => h)

/-- A loop up to one of its items, that item and the rest. -/
theorem ends_forM_split {Q : PUnit → σ → Prop} (f : α → Step σ PUnit) (before : List α) (a : α)
    (rest : List α) :
    ((before ++ a :: rest).forM f).Ends s Q E ↔
      (before.forM f).Ends s
        (fun _ t => (f a).Ends t (fun _ u => (rest.forM f).Ends u Q E) E) E := by
  have split : (before ++ a :: rest).forM f =
      before.forM f >>= fun _ => f a >>= fun _ => rest.forM f := by
    simp only [List.forM_eq_forM, List.forM_append, List.forM_cons]
  simp only [split, ends_bind]

/-- From states with `I` the step ends in `I` or is refused in `E`. -/
def Keeps (I : σ → Prop) (E : Fault → σ → Prop) (step : Step σ α) : Prop :=
  ∀ s, I s → step.Ends s (fun _ => I) E

variable {I : σ → Prop}

theorem keeps_pure (a : α) : Keeps I E (pure a : Step σ α) := fun _ h => h

theorem keeps_modify {f : σ → σ} (h : ∀ s, I s → I (f s)) :
    Keeps I E (modify f : Step σ Unit) := h

theorem Keeps.bind {step : Step σ α} {next : α → Step σ β} (first : Keeps I E step)
    (rest : ∀ a, Keeps I E (next a)) : Keeps I E (step >>= next) := fun s h =>
  (ends_bind _ _).2 ((first s h).mono (fun a t kept => rest a t kept) fun _ _ h => h)

theorem Keeps.forM {f : α → Step σ PUnit} {items : List α}
    (body : ∀ a ∈ items, Keeps I E (f a)) : Keeps I E (items.forM f) := by
  induction items with
  | nil => exact fun _ h => h
  | cons a rest ih =>
    exact (body a List.mem_cons_self).bind fun _ =>
      ih fun b member => body b (List.mem_cons_of_mem _ member)

theorem Keeps.after {step : Step σ α} (h : Keeps I E step) (refused : ∀ fault t, E fault t → I t)
    (kept : I s) : I (step.after s).2 :=
  Ends.after ((h s kept).mono (fun _ _ h => h) refused)

end WildlifeWarning.Step
