import WildlifeWarning.Number.Binary

/-! Values of a document, whatever its notation, and how typed values are taken from them.
A record is read by the names of its fields; unknown names are ignored and a known name may stand
once only. A record may also be written as the list of its fields in their order. What else passes
depends on the manner of reading. -/

namespace WildlifeWarning

inductive Datum where
  | null
  | bool (b : Bool)
  | integer (n : Int)
  | real (x : Double)
  | text (s : String)
  | list (items : List Datum)
  | record (fields : List (String × Datum))
  /-- Well-formed, but no value: a number or a text outside what can be held. -/
  | unreadable
  deriving Inhabited

/-- What passes in reading besides the plain form of a value. -/
inductive Manner where
  | plain
  /-- A list in the place of a record may go on behind the last field. -/
  | surplus
  /-- The value was set aside while a tag was looked for: a choice may have an empty record for its
  content, and a tag may be the number of its choice, counted from zero. -/
  | deferred
  deriving DecidableEq

abbrev Fields := List (String × Datum)

namespace Datum

mutual

def isReadable : Datum → Bool
  | .unreadable => false
  | .list items => allReadable items
  | .record fields => allFieldsReadable fields
  | _ => true

def allReadable : List Datum → Bool
  | [] => true
  | d :: rest => d.isReadable && allReadable rest

def allFieldsReadable : List (String × Datum) → Bool
  | [] => true
  | (_, d) :: rest => d.isReadable && allFieldsReadable rest

end

def integer? : Datum → Option Int
  | .integer n => some n
  | _ => none

def between? (lo hi : Int) (d : Datum) : Option Int := do
  let n ← d.integer?
  if lo ≤ n ∧ n ≤ hi then some n else none

def natural? (limit : Nat) (d : Datum) : Option Nat := (d.between? 0 limit).map Int.toNat

def byte? (d : Datum) : Option UInt8 := (d.natural? 255).map UInt8.ofNat
def word? (d : Datum) : Option UInt16 := (d.natural? 65535).map UInt16.ofNat
def signedByte? (d : Datum) : Option Int8 := (d.between? (-128) 127).map Int8.ofInt

/-- A number in single precision; whole numbers count as real ones. -/
def single? : Datum → Option Single
  | .integer n => some (.ofInt n)
  | .real x => some (x.convert .single)
  | _ => none

def bool? : Datum → Option Bool
  | .bool b => some b
  | _ => none

def text? : Datum → Option String
  | .text s => some s
  | _ => none

def list? {α : Type} (item? : Datum → Option α) : Datum → Option (List α)
  | .list items => items.mapM item?
  | _ => none

/-- One of the named choices, written as its name or as a record of that name alone, without
content. -/
def choice? {α : Type} (m : Manner) (choices : List (String × α)) : Datum → Option α
  | .text s => choices.lookup s
  | .record [(s, .null)] => choices.lookup s
  | .record [(s, .record [])] => if m = .deferred then choices.lookup s else none
  | _ => none

/-- The fields of these names that the datum has, each at most once. -/
def fields? (m : Manner) (names : List String) : Datum → Option Fields
  | .record fields =>
    let known := fields.filter fun (name, _) => name ∈ names
    if (known.map Prod.fst).Nodup then some known else none
  | .list items =>
    if items.length ≤ names.length ∨ m = .surplus then some (names.zip items) else none
  | _ => none

/-- The choice that a tag names or, in deferred reading, numbers. -/
def tag? {α : Type} (m : Manner) (choices : List (String × α)) : Datum → Option α
  | .text s => choices.lookup s
  | .integer n => if m = .deferred ∧ 0 ≤ n then choices[n.toNat]?.map Prod.snd else none
  | _ => none

/-- Reads the rest of a datum by the choice that a record tags in its field `name`, or a list in its
first item. All of the rest has to be readable. -/
def tagged? {α : Type} (m : Manner) (name : String)
    (choices : List (String × (Manner → Datum → Option α))) : Datum → Option α
  | .record fields =>
    let rest := fields.filter fun (other, _) => other ≠ name
    match fields.filter fun (other, _) => other = name with
    | [(_, d)] =>
      if allFieldsReadable rest then
        (d.tag? m choices).bind fun read? => read? .deferred (.record rest)
      else none
    | _ => none
  | .list (d :: rest) =>
    if allReadable rest then (d.tag? m choices).bind fun read? => read? .deferred (.list rest)
    else none
  | _ => none

end Datum

namespace Fields

def required {α : Type} (fs : Fields) (name : String) (read? : Datum → Option α) : Option α :=
  (fs.lookup name).bind read?

/-- A field that may be missing, but not wrong. -/
def optional {α : Type} (fs : Fields) (name : String) (read? : Datum → Option α) (default : α) :
    Option α :=
  match fs.lookup name with
  | none => some default
  | some d => read? d

end Fields

end WildlifeWarning
