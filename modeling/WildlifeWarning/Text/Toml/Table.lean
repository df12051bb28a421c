import WildlifeWarning.Text.Datum

/-! The tables of a TOML document while it is read.
A header opens a table once; a path through it makes its missing tables on the way. A dotted key
makes tables that later dotted keys of the same table may extend and headers may not open. -/

namespace WildlifeWarning.Toml

inductive Node where
  /-- Written after an equals sign; nothing is added to it. -/
  | value (d : Datum)
  /-- A table. It is implicit until a header opens it, and dotted if a dotted key made it. -/
  | table (implicit dotted : Bool) (entries : List (String × Node))
  /-- The tables of an array, the latest first. -/
  | tables (items : List (List (String × Node)))

abbrev Entries := List (String × Node)

mutual

def Node.datum : Node → Datum
  | .value d => d
  | .table _ _ entries => .record (datumFields entries)
  | .tables items => .list (datumItems items).reverse

def datumFields : List (String × Node) → List (String × Datum)
  | [] => []
  | (key, node) :: rest => (key, node.datum) :: datumFields rest

def datumItems : List (List (String × Node)) → List Datum
  | [] => []
  | entries :: rest => .record (datumFields entries) :: datumItems rest

end

namespace Entries

def put (key : String) (node : Node) : Entries → Entries
  | [] => [(key, node)]
  | (k, n) :: rest => if k = key then (k, node) :: rest else (k, n) :: put key node rest

/-- Changes the table at the end of a path. `dotted` tells whether the path is of a dotted key; the
change is told whether the table was made by one. -/
def modifyAt (dotted : Bool) (change : Bool → Entries → Option Entries) :
    List String → Bool → Entries → Option Entries
  | [], isDotted, es => change isDotted es
  | key :: rest, _, es =>
    match es.lookup key with
    | none =>
      (modifyAt dotted change rest dotted []).map fun sub => es ++ [(key, .table true dotted sub)]
    | some (.table implicit isDotted sub) =>
      if dotted && !implicit then none
      else (modifyAt dotted change rest isDotted sub).map fun sub =>
        put key (.table implicit isDotted sub) es
    | some (.tables (last :: earlier)) =>
      (modifyAt dotted change rest false last).map fun last =>
        put key (.tables (last :: earlier)) es
    | some _ => none

/-- Gives a new key its value. Under a dotted key the table has to be one that dotted keys made. -/
def assign (path : List String) (key : String) (d : Datum) (es : Entries) : Option Entries :=
  modifyAt true (fun isDotted es =>
    if isDotted == path.isEmpty then none
    else if (es.lookup key).isSome then none
    else some (es ++ [(key, .value d)])) path false es

def openTable (path : List String) (key : String) (es : Entries) : Option Entries :=
  modifyAt false (fun _ es =>
    match es.lookup key with
    | none => some (es ++ [(key, .table false false [])])
    | some (.table true false sub) => some (put key (.table false false sub) es)
    | some _ => none) path false es

def openArrayTable (path : List String) (key : String) (es : Entries) : Option Entries :=
  modifyAt false (fun _ es =>
    match es.lookup key with
    | none => some (es ++ [(key, .tables [[]])])
    | some (.tables items) => some (put key (.tables ([] :: items)) es)
    | some _ => none) path false es

def assignIn (header path : List String) (key : String) (d : Datum) (es : Entries) :
    Option Entries :=
  modifyAt false (fun _ es => assign path key d es) header false es

end Entries

end WildlifeWarning.Toml
