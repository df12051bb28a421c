import WildlifeWarning.Text.Datum
import WildlifeWarning.Text.Hex
import WildlifeWarning.Text.Toml.Moment

/-! Booleans, numbers and moments of TOML documents. Digits may be grouped by single underscores
between them; whole numbers have 64 bits and a sign. -/

namespace WildlifeWarning.Toml

/-- Digits in groups, an underscore between two groups. -/
def grouped? (isDigitOf : Char → Bool) (cs : List Char) : Option (List Char) :=
  let groups := cs.splitOn '_'
  if groups.all fun g => !g.isEmpty && g.all isDigitOf then some groups.flatten else none

/-- Decimal digits in groups, without a leading zero before others. -/
def decimalDigits? (cs : List Char) : Option (List Char) :=
  match grouped? isDigit cs with
  | some ('0' :: _ :: _) => none
  | digits => digits

def whole? (n : Int) : Option Datum :=
  if Int64.minValue.toInt ≤ n ∧ n ≤ Int64.maxValue.toInt then some (.integer n) else none

def radix? (base : Nat) (cs : List Char) : Option Datum :=
  let digitOf (c : Char) : Option Nat := (Hex.value? c).filter (· < base)
  (grouped? (fun c => (digitOf c).isSome) cs).bind fun digits =>
    whole? (ofDigits base digitOf digits)

def exponent? (cs : List Char) : Option Int :=
  let (negative, rest) := Decimal.splitSign cs
  (grouped? isDigit rest).map fun digits =>
    if negative then -(decimalValue digits : Int) else decimalValue digits

/-- A real number; one that is too large above is refused. -/
def float? (d : Decimal) : Option Datum :=
  let x := d.toBinary .double
  if x = .infinity false then none else some (.real x)

def number? (negative : Bool) (whole rest : List Char) : Option Datum :=
  match rest with
  | [] => whole? (if negative then -(decimalValue whole : Int) else decimalValue whole)
  | '.' :: rest =>
    let isExponent (c : Char) : Bool := c == 'e' || c == 'E'
    match grouped? isDigit (rest.takeWhile fun c => !isExponent c),
        rest.dropWhile fun c => !isExponent c with
    | some fraction, [] => float? (.ofParts negative whole fraction 0)
    | some fraction, _ :: power =>
      (exponent? power).bind fun e => float? (.ofParts negative whole fraction e)
    | none, _ => none
  | _ :: power => (exponent? power).bind fun e => float? (.ofParts negative whole [] e)

/-- A date or a time is a record of one field, whose name no reader looks for. -/
def moment (cs : List Char) : Datum := .record [("date-time", .text (String.ofList cs))]

def scalar? (cs : List Char) : Option Datum :=
  match cs with
  | '0' :: 'x' :: digits => radix? 16 digits
  | '0' :: 'o' :: digits => radix? 8 digits
  | '0' :: 'b' :: digits => radix? 2 digits
  | _ =>
    if cs = "true".toList then some (.bool true)
    else if cs = "false".toList then some (.bool false)
    else if isMoment cs then some (moment cs)
    else
      let (negative, rest) := Decimal.splitSign cs
      if rest = "inf".toList then some (.real (.infinity negative))
      else if rest = "nan".toList then some (.real .nan)
      else
        let endsWhole (c : Char) : Bool := c == '.' || c == 'e' || c == 'E'
        (decimalDigits? (rest.takeWhile fun c => !endsWhole c)).bind fun whole =>
          number? negative whole (rest.dropWhile fun c => !endsWhole c)

end WildlifeWarning.Toml
