import WildlifeWarning.Number.Binary

/-! Decimal numerals: their digits, their exact values, and the texts that settings given outside a
document may have. A numeral is read exactly and rounded once. -/

namespace WildlifeWarning

def digit? (c : Char) : Option Nat :=
  if '0' ≤ c ∧ c ≤ '9' then some (c.toNat - '0'.toNat) else none

def isDigit (c : Char) : Bool := (digit? c).isSome

def ofDigits (base : Nat) (digitOf : Char → Option Nat) (cs : List Char) : Nat :=
  (cs.filterMap digitOf).foldl (fun value digit => value * base + digit) 0

def decimalValue (cs : List Char) : Nat := ofDigits 10 digit? cs

/-- A whole number of at most `limit`: decimal digits after an optional plus sign. -/
def natural? (limit : Nat) (cs : List Char) : Option Nat :=
  let digits := match cs with
    | '+' :: rest => rest
    | cs => cs
  if digits.isEmpty || !digits.all isDigit then none
  else
    let value := decimalValue digits
    if value ≤ limit then some value else none

structure Decimal where
  negative : Bool
  digits : Nat
  exponent : Int
  deriving DecidableEq

namespace Decimal

def ofParts (negative : Bool) (whole fraction : List Char) (exponent : Int) : Decimal :=
  ⟨negative, decimalValue (whole ++ fraction), exponent - fraction.length⟩

def digitCount (n : Nat) : Nat := (Nat.toDigits 10 n).length

/-- Nearest number of the format. A numeral whose leading digit is `2 ^ exponentBits` or more places
away from the point lies beyond every finite number or below half the smallest one, and its power
of ten is not formed. -/
def toBinary (f : BinaryFormat) (d : Decimal) : Binary f :=
  let leading := d.exponent + digitCount d.digits
  if d.digits = 0 then .signedZero d.negative
  else if (1 <<< f.exponentBits : Nat) < leading then .infinity d.negative
  else if leading < -(1 <<< f.exponentBits : Nat) then .signedZero d.negative
  else .ofDecimal d.negative d.digits d.exponent

def splitSign : List Char → Bool × List Char
  | '+' :: rest => (false, rest)
  | '-' :: rest => (true, rest)
  | cs => (false, cs)

def exponent? (cs : List Char) : Option Int :=
  let (negative, digits) := splitSign cs
  if digits.isEmpty || !digits.all isDigit then none
  else
    let value : Int := decimalValue digits
    some (if negative then -value else value)

/-- Digits with a point anywhere among them or none, at least one digit, and perhaps an exponent. -/
def ofUnsigned? (negative : Bool) (cs : List Char) : Option Decimal :=
  let whole := cs.takeWhile isDigit
  let afterWhole := cs.dropWhile isDigit
  let (fraction, rest) := match afterWhole with
    | '.' :: more => (more.takeWhile isDigit, more.dropWhile isDigit)
    | more => ([], more)
  if whole.isEmpty && fraction.isEmpty then none
  else match rest with
    | [] => some (ofParts negative whole fraction 0)
    | letter :: more =>
      if letter = 'e' ∨ letter = 'E' then (exponent? more).map (ofParts negative whole fraction)
      else none

end Decimal

/-- A real number: a decimal numeral, or `inf`, `infinity` or `nan` in letters of either case. -/
def real? (f : BinaryFormat) (cs : List Char) : Option (Binary f) :=
  let (negative, rest) := Decimal.splitSign cs
  let word := rest.map Char.toLower
  if word = ['n', 'a', 'n'] then some .nan
  else if word = ['i', 'n', 'f'] ∨ word = ['i', 'n', 'f', 'i', 'n', 'i', 't', 'y'] then
    some (.infinity negative)
  else (Decimal.ofUnsigned? negative rest).map (Decimal.toBinary f)

end WildlifeWarning
