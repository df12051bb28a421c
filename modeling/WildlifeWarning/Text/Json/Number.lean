import WildlifeWarning.Number.Decimal
import WildlifeWarning.Text.Datum

/-! Numbers of JSON documents.
A number without point and exponent that fits 64 bits is a whole number. Any other is read as its
leading digits, as many as fit 64 bits, times or divided by powers of ten, each step rounded; where
that leaves the range of double precision there is no value. -/

namespace WildlifeWarning.Json

structure Numeral where
  negative : Bool
  whole : List Char
  fraction : Option (List Char)
  exponent : Option (Bool × List Char)
  deriving DecidableEq

namespace Numeral

def exponent? : List Char → Option (Bool × List Char)
  | cs =>
    let (negative, digits) := Decimal.splitSign cs
    if digits.isEmpty || !digits.all isDigit then none else some (negative, digits)

def tail? (negative : Bool) (whole : List Char) : List Char → Option Numeral
  | [] => some ⟨negative, whole, none, none⟩
  | '.' :: rest =>
    let fraction := rest.takeWhile isDigit
    if fraction.isEmpty then none
    else match rest.dropWhile isDigit with
      | [] => some ⟨negative, whole, some fraction, none⟩
      | letter :: more =>
        if letter = 'e' ∨ letter = 'E' then
          (exponent? more).map fun e => ⟨negative, whole, some fraction, some e⟩
        else none
  | letter :: more =>
    if letter = 'e' ∨ letter = 'E' then
      (exponent? more).map fun e => ⟨negative, whole, none, some e⟩
    else none

/-- The whole part has no leading zero beside a zero that stands alone. -/
def ofText? (cs : List Char) : Option Numeral :=
  let (negative, rest) := match cs with
    | '-' :: rest => (true, rest)
    | cs => (false, cs)
  let whole := rest.takeWhile isDigit
  match whole with
  | [] => none
  | '0' :: _ :: _ => none
  | _ => tail? negative whole (rest.dropWhile isDigit)

/-- Appends digits to a number while it fits 64 bits; the digits left over come second. -/
def absorb (value : Nat) : List Char → Nat × List Char
  | [] => (value, [])
  | c :: rest =>
    let next := value * 10 + (digit? c).getD 0
    if next < UInt64.size then absorb next rest else (value, c :: rest)

def powerOfTen (n : Nat) : Double := .ofDecimal false 1 n

/-- `significand · 10 ^ exponent` in at most three rounded steps; `none` if it is too large. -/
def scale (significand : Nat) (exponent : Int) : Option Double :=
  let x : Double := .ofNat significand
  if 0 ≤ exponent then
    if significand = 0 then some x
    else if 308 < exponent then none
    else
      let scaled := x * powerOfTen exponent.toNat
      if scaled.isInfinite then none else some scaled
  else if -308 ≤ exponent then some (x / powerOfTen (-exponent).toNat)
  else if -616 ≤ exponent then some (x / powerOfTen 308 / powerOfTen (-exponent - 308).toNat)
  else some 0

def signed (negative : Bool) (x : Double) : Double := if negative then x.negate else x

def value (n : Numeral) : Datum :=
  let (leading, dropped) := absorb 0 n.whole
  match n.fraction, n.exponent, dropped with
  | none, none, [] =>
    if n.negative then
      if leading = 0 ∨ UInt64.size / 2 < leading then .real (signed true (.ofNat leading))
      else .integer (-leading)
    else .integer leading
  | _, _, _ =>
    let fraction := n.fraction.getD []
    let (significand, ignored) := absorb leading fraction
    let point : Int := dropped.length - (fraction.length - ignored.length : Nat)
    let shift : Int := match n.exponent with
      | none => 0
      | some (negative, digits) => if negative then -decimalValue digits else decimalValue digits
    match scale significand (point + shift) with
    | some x => .real (signed n.negative x)
    | none => .unreadable

end Numeral

end WildlifeWarning.Json
