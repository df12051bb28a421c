import WildlifeWarning.Text.Toml.Value

/-! TOML documents: lines that assign a key, open a table or the next table of an array, or are
blank. -/

namespace WildlifeWarning.Toml

/-- The names of a header from behind its opening brackets, and what follows its first closing
bracket. -/
def headerNames? (cs : List Char) : Option (List String × Rest cs) :=
  (key? (skipSpace cs)).bind fun (names, ⟨after, step⟩) =>
    ((spaces after).after? ']').map fun rest =>
      (names, (rest.within step).skipping (length_skipSpace_le cs))

def header? (cs : List Char) : Option ((Bool × List String) × Rest cs) :=
  match cs with
  | '[' :: '[' :: rest =>
    (headerNames? rest).bind fun (names, ⟨after, step⟩) =>
      ((Upto.all after).after? ']').map fun last =>
        ((true, names), Rest.behind _ (Rest.behind _ (last.within step)))
  | '[' :: rest => (headerNames? rest).map fun (names, after) => ((false, names), after.behind _)
  | _ => none

def lineEnd? (cs : List Char) : Option (List Char) :=
  match skipSpace cs with
  | [] => some []
  | '\n' :: rest => some rest
  | '\r' :: '\n' :: rest => some rest
  | '#' :: rest => skipBlank? true rest
  | _ => none

theorem length_lineEnd?_le {cs rest : List Char} (h : lineEnd? cs = some rest) :
    rest.length ≤ cs.length := by
  have start := length_skipSpace_le cs
  unfold lineEnd? at h
  split at h
  · cases h
    exact Nat.zero_le _
  · next found =>
    cases h
    rw [found] at start
    exact Nat.le_of_succ_le start
  · next found =>
    cases h
    rw [found] at start
    simp only [List.length_cons] at start
    omega
  · next found =>
    have := length_skipBlank?_le h
    rw [found] at start
    simp only [List.length_cons] at start
    omega
  · contradiction

/-- A line: what it does to the tables, given the header that it stands under, and the header that
the next line stands under. -/
def statement? (header : List String) (es : Entries) (cs : List Char) :
    Option ((List String × Entries) × Rest cs) :=
  match header? cs with
  | some ((array, names), after) => do
    let (path, key) ← splitLast? names
    let es ← if array then Entries.openArrayTable path key es else Entries.openTable path key es
    some ((names, es), after)
  | none =>
    match assignment? cs with
    | none => none
    | some (names, ⟨here, first⟩) =>
      match value? maxDepth here with
      | none => none
      | some (d, after) => do
        let (path, key) ← splitLast? names
        let es ← Entries.assignIn header path key d es
        some ((header, es), after.within first)

def lines? (header : List String) (es : Entries) (cs : List Char) : Option Entries :=
  match _blank : skipBlank? false cs with
  | none => none
  | some [] => some es
  | some (c :: rest) =>
    match statement? header es (c :: rest) with
    | none => none
    | some ((header, es), ⟨after, _step⟩) =>
      match _line : lineEnd? after with
      | none => none
      | some next => lines? header es next
termination_by cs.length
decreasing_by
  have := length_skipBlank?_le _blank
  have := length_lineEnd?_le _line
  omega

/-- The record that a document stands for. A byte order mark before it is skipped. -/
def parse? (text : String) : Option Datum :=
  let cs := match text.toList with
    | '\uFEFF' :: rest => rest
    | cs => cs
  (lines? [] [] cs).map fun es => (Node.table false false es).datum

end WildlifeWarning.Toml
