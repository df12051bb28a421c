import Mathlib.Data.List.TakeWhile
import WildlifeWarning.Proofs.HealthLog

/-! What health records were asked on, without the events that they refused.
What the records hold is read off the end of this history, back to the last occasion that made them
start anew. An invariant of both that each occasion keeps holds after every run. -/

namespace WildlifeWarning.SensorHealth

variable {p : Parameters} {h : SensorHealth} {history : List Occasion}

/-- Only an event without room is refused. -/
def admits (p : Parameters) (h : SensorHealth) : Occasion → Bool
  | .event key minute => (h.record p key minute).isOk
  | .minute | .day _ | .placements _ => true

def heeded (p : Parameters) (h : SensorHealth) : List Occasion → List Occasion
  | [] => []
  | occasion :: rest =>
    let later := (h.answer p occasion).2.heeded p rest
    if h.admits p occasion then occasion :: later else later

theorem heeded_append (earlier later : List Occasion) :
    h.heeded p (earlier ++ later) =
      h.heeded p earlier ++ (h.answers p earlier).2.heeded p later := by
  induction earlier generalizing h with
  | nil => rfl
  | cons occasion rest ih =>
    simp only [List.cons_append, heeded, ih, answers]
    split <;> rfl

theorem answer_of_refused {occasion : Occasion} (refused : h.admits p occasion = false) :
    (h.answer p occasion).2 = h := by
  cases occasion with
  | event key minute =>
    simp only [admits] at refused
    simp only [answer]
    cases recorded : h.record p key minute with
    | ok result => rw [recorded] at refused; contradiction
    | error fault => rfl
  | minute | day | placements => contradiction

inductive Heeds (p : Parameters) (h : SensorHealth) : Occasion → SensorHealth → Prop
  | event {key : SensorKey} {minute : UInt32} {cleared : Option HealthChange} {next : SensorHealth}
      (recorded : h.record p key minute = .ok (cleared, next)) : Heeds p h (.event key minute) next
  | minute : Heeds p h .minute (h.evaluateHyperactivity p).2
  | day (r : Registry) : Heeds p h (.day r) (h.evaluateInactivity r).2
  | placements (r : Registry) : Heeds p h (.placements r) (h.sync r).2

theorem heeds_answer {occasion : Occasion} (admitted : h.admits p occasion = true) :
    Heeds p h occasion (h.answer p occasion).2 := by
  cases occasion with
  | event key minute =>
    simp only [admits] at admitted
    simp only [answer]
    cases recorded : h.record p key minute with
    | ok result => exact .event recorded
    | error fault => rw [recorded] at admitted; contradiction
  | minute => exact .minute
  | day r => exact .day r
  | placements r => exact .placements r

/-- What every occasion keeps, of its history and of the records, holds after a run. -/
theorem heeded_induction {motive : List Occasion → SensorHealth → Prop}
    (occasions : List Occasion) (done : List Occasion) (start : motive done h)
    (step : ∀ done h occasion next, motive done h → occasion ∈ occasions →
      Heeds p h occasion next → motive (done ++ [occasion]) next) :
    motive (done ++ h.heeded p occasions) (h.answers p occasions).2 := by
  induction occasions generalizing h done with
  | nil => simpa [heeded, answers] using start
  | cons occasion rest ih =>
    have later : ∀ done h o next, motive done h → o ∈ rest → Heeds p h o next →
        motive (done ++ [o]) next := fun done h o next kept among =>
      step done h o next kept (List.mem_cons_of_mem _ among)
    simp only [heeded, answers]
    cases admitted : h.admits p occasion with
    | false =>
      have same := answer_of_refused admitted
      rw [same]
      exact ih done start later
    | true =>
      have first := step done h occasion _ start List.mem_cons_self (heeds_answer admitted)
      simpa using ih (done ++ [occasion]) first later

/-- What came behind the last occasion of a kind, the newest first; all if there was none. -/
def sinceLast (kind : Occasion → Bool) (history : List Occasion) : List Occasion :=
  history.reverse.takeWhile fun o => !kind o

variable {kind : Occasion → Bool}

theorem sinceLast_concat (kind : Occasion → Bool) (history : List Occasion) (occasion : Occasion) :
    sinceLast kind (history ++ [occasion]) =
      if kind occasion then [] else occasion :: sinceLast kind history := by
  rw [sinceLast, List.reverse_append, List.reverse_singleton, List.singleton_append,
    List.takeWhile_cons]
  cases kind occasion <;> rfl

theorem not_of_mem_sinceLast {occasion : Occasion} (member : occasion ∈ sinceLast kind history) :
    kind occasion = false := by
  simpa using List.mem_takeWhile_imp member

theorem exists_eq_append_sinceLast (kind : Occasion → Bool) (history : List Occasion) :
    ∃ earlier, history = earlier ++ (sinceLast kind history).reverse := by
  refine ⟨(history.reverse.dropWhile fun o => !kind o).reverse, ?_⟩
  rw [← List.reverse_append, sinceLast, List.takeWhile_append_dropWhile, List.reverse_reverse]

theorem sinceLast_of_none (none : ∀ o ∈ history, kind o = false) :
    sinceLast kind history = history.reverse := by
  rw [sinceLast, List.takeWhile_eq_self_iff]
  intro o member
  rw [none o (List.mem_reverse.1 member)]
  rfl

end WildlifeWarning.SensorHealth
