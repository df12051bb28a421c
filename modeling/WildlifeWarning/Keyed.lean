/-! Lists of records, one under each key. -/

namespace WildlifeWarning.Keyed

variable {κ α : Type} [DecidableEq κ] (key : α → κ)

/-- Replaces the record under the same key, else appends. -/
def store : List α → α → List α
  | [], a => [a]
  | r :: rest, a => if key r = key a then a :: rest else r :: store rest a

theorem find?_store_self (records : List α) (a : α) :
    (store key records a).find? (fun r => key r == key a) = some a := by
  induction records with
  | nil => simp [store]
  | cons r rest ih => by_cases same : key r = key a <;> simp [store, same, ih]

theorem find?_store_of_ne (records : List α) {a : α} {k : κ} (h : key a ≠ k) :
    (store key records a).find? (fun r => key r == k) = records.find? (fun r => key r == k) := by
  induction records with
  | nil => simp [store, h]
  | cons r rest ih =>
    by_cases same : key r = key a
    · have : ¬key r = k := same ▸ h
      simp [store, same, h]
    · simp [store, same, List.find?_cons, ih]

theorem map_key_store (records : List α) (a : α) :
    (store key records a).map key =
      if key a ∈ records.map key then records.map key else records.map key ++ [key a] := by
  induction records with
  | nil => simp [store]
  | cons r rest ih =>
    by_cases same : key r = key a
    · simp [store, same]
    · have : ¬key a = key r := fun h => same h.symm
      simp only [store, same, if_false, List.map_cons, ih, List.mem_cons, this, false_or]
      split <;> simp

theorem mem_of_mem_store {records : List α} {a r : α} (member : r ∈ store key records a) :
    r = a ∨ r ∈ records := by
  induction records with
  | nil => exact .inl (List.mem_singleton.1 member)
  | cons first rest ih =>
    rw [store] at member
    split at member
    · exact (List.mem_cons.1 member).imp_right (List.mem_cons_of_mem _)
    · rcases List.mem_cons.1 member with rfl | later
      · exact .inr List.mem_cons_self
      · exact (ih later).imp_right (List.mem_cons_of_mem _)

theorem store_store (records : List α) {a b : α} (h : key a = key b) :
    store key (store key records a) b = store key records b := by
  induction records with
  | nil => simp [store, h]
  | cons r rest ih =>
    by_cases same : key r = key a
    · simp [store, same, h]
    · have : ¬key r = key b := h ▸ same
      simp [store, same, this, ih]

theorem find?_of_mem {records : List α} (distinct : (records.map key).Nodup) {a : α}
    (member : a ∈ records) : records.find? (fun r => key r == key a) = some a := by
  induction records with
  | nil => contradiction
  | cons r rest ih =>
    rw [List.map_cons, List.nodup_cons] at distinct
    rcases List.mem_cons.1 member with rfl | later
    · simp
    · have : key r ≠ key a := fun same => distinct.1 (same ▸ List.mem_map_of_mem later)
      simp [this, ih distinct.2 later]

theorem nodup_store {records : List α} (a : α) (h : (records.map key).Nodup) :
    ((store key records a).map key).Nodup := by
  rw [map_key_store]
  split
  · exact h
  · next new =>
    refine List.nodup_append.2 ⟨h, by simp, ?_⟩
    rintro k member l only rfl
    exact new (List.mem_singleton.1 only ▸ member)

theorem perm_store {records : List α} (distinct : (records.map key).Nodup) (a : α) :
    (store key records a).Perm (records.filter (fun r => key r ≠ key a) ++ [a]) := by
  induction records with
  | nil => exact .refl _
  | cons r rest ih =>
    rw [List.map_cons, List.nodup_cons] at distinct
    by_cases same : key r = key a
    · have others : rest.filter (fun r => key r ≠ key a) = rest :=
        List.filter_eq_self.2 fun s member => decide_eq_true fun again =>
          distinct.1 (same.trans again.symm ▸ List.mem_map_of_mem member)
      rw [store, if_pos same, List.filter_cons_of_neg (by simp [same]), others]
      exact (List.perm_append_singleton a rest).symm
    · rw [store, if_neg same, List.filter_cons_of_pos (by simp [same])]
      exact (ih distinct.2).cons r

end WildlifeWarning.Keyed
