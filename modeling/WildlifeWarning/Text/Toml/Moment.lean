import WildlifeWarning.Number.Decimal

/-! Dates and times of day in TOML documents, which a document may hold though no field takes one.
A date exists in the calendar; a minute has up to sixty-one seconds. -/

namespace WildlifeWarning.Toml

def digitsWithin (lo hi : Nat) (cs : List Char) : Bool :=
  cs.all isDigit && lo ≤ decimalValue cs && decimalValue cs ≤ hi

def isLeap (year : Nat) : Bool := year % 4 == 0 && (year % 100 != 0 || year % 400 == 0)

def daysIn (year month : Nat) : Nat :=
  if month = 2 then if isLeap year then 29 else 28
  else if month = 4 ∨ month = 6 ∨ month = 9 ∨ month = 11 then 30
  else 31

def isDate : List Char → Bool
  | [a, b, c, d, '-', e, f, '-', g, h] =>
    let days := daysIn (decimalValue [a, b, c, d]) (decimalValue [e, f])
    [a, b, c, d].all isDigit && digitsWithin 1 12 [e, f] && digitsWithin 1 days [g, h]
  | _ => false

def isOffset : List Char → Bool
  | [c] => c == 'Z' || c == 'z'
  | [sign, a, b, ':', c, d] =>
    (sign == '+' || sign == '-') && digitsWithin 0 23 [a, b] && digitsWithin 0 59 [c, d]
  | _ => false

/-- A time of day; `zoned` allows an offset behind it. -/
def isTime (zoned : Bool) : List Char → Bool
  | a :: b :: ':' :: c :: d :: ':' :: e :: f :: rest =>
    digitsWithin 0 23 [a, b] && digitsWithin 0 59 [c, d] && digitsWithin 0 60 [e, f] &&
      match rest with
      | '.' :: g :: more => isDigit g && ends (more.dropWhile isDigit)
      | _ => ends rest
  | _ => false
where
  ends (rest : List Char) : Bool := rest.isEmpty || (zoned && isOffset rest)

/-- A date, a time of day, or both with a letter or a space between them. -/
def isMoment (cs : List Char) : Bool :=
  isDate cs || isTime false cs ||
    (isDate (cs.take 10) &&
      match cs.drop 10 with
      | c :: time => (c == 'T' || c == 't' || c == ' ') && isTime true time
      | [] => false)

end WildlifeWarning.Toml
