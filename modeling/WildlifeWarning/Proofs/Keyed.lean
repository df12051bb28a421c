import Mathlib.Data.Finset.Card
import WildlifeWarning.Keyed
import WildlifeWarning.Proofs.InTurn

/-! Records under their keys after a whole history of storing: the last one of each key, the keys in
the order in which they came first. -/

namespace WildlifeWarning.Keyed

variable {κ α : Type} [DecidableEq κ] {key : α → κ} {records : List α} {a : α}

theorem store_of_new (new : key a ∉ records.map key) : store key records a = records ++ [a] := by
  induction records with
  | nil => rfl
  | cons r rest ih =>
    rw [List.map_cons, List.mem_cons, not_or] at new
    rw [store, if_neg (Ne.symm new.1), ih new.2, List.cons_append]

theorem store_of_findIdx? {i : Nat} (found : records.findIdx? (fun r => key r == key a) = some i) :
    store key records a = records.set i a := by
  induction records generalizing i with
  | nil => contradiction
  | cons r rest ih =>
    rw [List.findIdx?_cons] at found
    by_cases same : key r = key a
    · obtain rfl : 0 = i := by simpa [same] using found
      rw [store, if_pos same, List.set_cons_zero]
    · obtain ⟨j, later, rfl⟩ :
          ∃ j, rest.findIdx? (fun r => key r == key a) = some j ∧ j + 1 = i := by
        simpa [same] using found
      rw [store, if_neg same, ih later, List.set_cons_succ]

/-- The records after a whole history, the oldest first. -/
def storeAll (key : α → κ) (history : List α) : List α := inTurn (store key) [] history

variable {history : List α}

theorem storeAll_concat (history : List α) (a : α) :
    storeAll key (history ++ [a]) = store key (storeAll key history) a := inTurn_concat ..

theorem nodup_storeAll (history : List α) : ((storeAll key history).map key).Nodup := by
  induction history using List.reverseRecOn with
  | nil => exact List.nodup_nil
  | append_singleton history a ih =>
    rw [storeAll_concat]
    exact nodup_store key a ih

theorem mem_map_key_storeAll {k : κ} :
    k ∈ (storeAll key history).map key ↔ k ∈ history.map key := by
  induction history using List.reverseRecOn with
  | nil => rfl
  | append_singleton history a ih =>
    rw [storeAll_concat, map_key_store, List.map_append, List.mem_append, ← ih]
    split
    · next known =>
      refine ⟨.inl, fun member => member.elim id fun last => ?_⟩
      rwa [List.mem_singleton.1 last]
    · exact List.mem_append

theorem length_storeAll (history : List α) :
    (storeAll key history).length = (history.map key).toFinset.card := by
  have same : (history.map key).toFinset = ((storeAll key history).map key).toFinset :=
    Finset.ext fun k => by rw [List.mem_toFinset, List.mem_toFinset, mem_map_key_storeAll]
  rw [same, List.toFinset_card_of_nodup (nodup_storeAll history), List.length_map]

theorem find?_storeAll (history : List α) (k : κ) :
    (storeAll key history).find? (fun r => key r == k) =
      history.reverse.find? (fun r => key r == k) := by
  induction history using List.reverseRecOn with
  | nil => rfl
  | append_singleton history a ih =>
    rw [storeAll_concat, List.reverse_append, List.reverse_singleton, List.singleton_append,
      List.find?_cons]
    by_cases own : key a = k
    · subst own
      rw [find?_store_self, beq_self_eq_true]
    · rw [find?_store_of_ne key _ own, ih, beq_false_of_ne own]

theorem idxOf_lt_idxOf_concat {keys : List κ} {k l : κ} (member : l ∈ keys) (new : k ∉ keys) :
    (keys ++ [k]).idxOf l < (keys ++ [k]).idxOf k := by
  rw [List.idxOf_append_of_mem member, List.idxOf_append_of_notMem new]
  exact Nat.lt_add_right _ (List.idxOf_lt_length_of_mem member)

theorem idxOf_storeAll_le_iff {k l : κ} (mk : k ∈ history.map key) (ml : l ∈ history.map key) :
    ((storeAll key history).map key).idxOf k ≤ ((storeAll key history).map key).idxOf l ↔
      (history.map key).idxOf k ≤ (history.map key).idxOf l := by
  induction history using List.reverseRecOn with
  | nil => contradiction
  | append_singleton history a ih =>
    rw [List.map_append, List.map_singleton] at mk ml ⊢
    rw [storeAll_concat, map_key_store]
    by_cases known : key a ∈ history.map key
    · have old : ∀ {m}, m ∈ history.map key ++ [key a] → m ∈ history.map key := fun member =>
        (List.mem_append.1 member).elim id fun last => List.mem_singleton.1 last ▸ known
      rw [if_pos (mem_map_key_storeAll.2 known), List.idxOf_append_of_mem (old mk),
        List.idxOf_append_of_mem (old ml)]
      exact ih (old mk) (old ml)
    · -- A new key is the last of both rows: it comes behind all others and before none.
      have new : key a ∉ (storeAll key history).map key := mt mem_map_key_storeAll.1 known
      rw [if_neg new]
      rcases List.mem_append.1 mk with mk | last <;> rcases List.mem_append.1 ml with ml | last'
      · have sk := mem_map_key_storeAll.2 mk
        have sl := mem_map_key_storeAll.2 ml
        rw [List.idxOf_append_of_mem mk, List.idxOf_append_of_mem ml,
          List.idxOf_append_of_mem sk, List.idxOf_append_of_mem sl]
        exact ih mk ml
      · obtain rfl := List.mem_singleton.1 last'
        exact iff_of_true (idxOf_lt_idxOf_concat (mem_map_key_storeAll.2 mk) new).le
          (idxOf_lt_idxOf_concat mk known).le
      · obtain rfl := List.mem_singleton.1 last
        exact iff_of_false (idxOf_lt_idxOf_concat (mem_map_key_storeAll.2 ml) new).not_ge
          (idxOf_lt_idxOf_concat ml known).not_ge
      · rw [List.mem_singleton.1 last, List.mem_singleton.1 last']
        simp

end WildlifeWarning.Keyed
