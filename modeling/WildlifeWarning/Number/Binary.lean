/-! Binary floating-point numbers as a sign and a magnitude code.
The code of a magnitude is its interchange pattern without the sign bit, so codes are ordered as
the magnitudes are and neighbouring numbers have neighbouring codes. Arithmetic is exact on natural
numbers and rounds once, to the nearest code, a tie to the even one. All not-a-numbers are one. -/

namespace WildlifeWarning

/-- Widths of the two fields that follow the sign bit. -/
structure BinaryFormat where
  fractionBits : Nat
  exponentBits : Nat
  deriving DecidableEq

namespace BinaryFormat

def single : BinaryFormat := ⟨23, 8⟩
def double : BinaryFormat := ⟨52, 11⟩

def binade (f : BinaryFormat) : Nat := 1 <<< f.fractionBits

/-- The number one is this many of the smallest positive number. -/
def unitsPerOne (f : BinaryFormat) : Nat :=
  1 <<< ((1 <<< (f.exponentBits - 1)) - 2 + f.fractionBits)

def infinity (f : BinaryFormat) : Nat := ((1 <<< f.exponentBits) - 1) * f.binade

theorem one_shiftLeft_pos (n : Nat) : 0 < 1 <<< n := by
  rw [Nat.shiftLeft_eq, Nat.one_mul]
  exact Nat.two_pow_pos n

theorem binade_pos (f : BinaryFormat) : 0 < f.binade := one_shiftLeft_pos _

theorem unitsPerOne_pos (f : BinaryFormat) : 0 < f.unitsPerOne := one_shiftLeft_pos _

/-- A finite magnitude counted in the smallest positive number. -/
def units (f : BinaryFormat) (code : Nat) : Nat :=
  if code < f.binade then code
  else (f.binade + code % f.binade) <<< (code / f.binade - 1)

theorem units_of_lt {f : BinaryFormat} {code : Nat} (h : code < f.binade) : f.units code = code :=
  if_pos h

@[simp] theorem units_zero (f : BinaryFormat) : f.units 0 = 0 := units_of_lt f.binade_pos

end BinaryFormat

/-- The integer nearest to `num / den`, a tie to the even one. -/
def roundHalfEven (num den : Nat) : Nat :=
  let floor := num / den
  match compare (2 * (num % den)) den with
  | .lt => floor
  | .eq => floor + floor % 2
  | .gt => floor + 1

theorem roundHalfEven_of_dvd {num den : Nat} (pos : 0 < den) (h : den ∣ num) :
    roundHalfEven num den = num / den := by
  have zero : num % den = 0 := Nat.mod_eq_zero_of_dvd h
  have lt : compare (2 * (num % den)) den = .lt := by
    rw [zero, Nat.compare_eq_lt]
    omega
  simp [roundHalfEven, lt]

/-- The code nearest to `num / den` smallest positive numbers. A quotient of more than
`fractionBits + 1` bits gives up its lowest bits, one binade of codes for each; rounding up to the
next power of two carries into the next binade by itself. -/
def BinaryFormat.nearest (f : BinaryFormat) (num den : Nat) : Nat :=
  let shift := (num / den).log2 - f.fractionBits
  min (shift * f.binade + roundHalfEven num (den <<< shift)) f.infinity

theorem BinaryFormat.nearest_le (f : BinaryFormat) (num den : Nat) :
    f.nearest num den ≤ f.infinity := Nat.min_le_right _ _

inductive Binary (f : BinaryFormat) where
  | nan
  | number (negative : Bool) (code : Nat) (le : code ≤ f.infinity)
  deriving DecidableEq

abbrev Single := Binary .single
abbrev Double := Binary .double

namespace Binary

variable {f : BinaryFormat}

def rounded (negative : Bool) (num den : Nat) : Binary f :=
  number negative (f.nearest num den) (f.nearest_le num den)

def signedZero (negative : Bool) : Binary f := number negative 0 (Nat.zero_le _)

def zero : Binary f := signedZero false

instance : Inhabited (Binary f) := ⟨zero⟩

def infinity (negative : Bool) : Binary f := number negative f.infinity (Nat.le_refl _)

def isNaN : Binary f → Bool
  | nan => true
  | number .. => false

def isInfinite : Binary f → Bool
  | nan => false
  | number _ code _ => code == f.infinity

def negate : Binary f → Binary f
  | nan => nan
  | number negative code le => number (!negative) code le

/-- Position on the number line, the two zeros at one place. -/
def rank? : Binary f → Option Int
  | nan => none
  | number false code _ => some code
  | number true code _ => some (-code)

@[simp] theorem rank?_eq_none {x : Binary f} : x.rank? = none ↔ x = nan := by
  cases x with
  | nan => simp [rank?]
  | number negative code le => cases negative <;> simp [rank?]

/-- False where either side is not a number. -/
def lt (x y : Binary f) : Bool :=
  match x.rank?, y.rank? with
  | some a, some b => a < b
  | _, _ => false

def le (x y : Binary f) : Bool :=
  match x.rank?, y.rank? with
  | some a, some b => a ≤ b
  | _, _ => false

instance : LT (Binary f) := ⟨fun x y => x.lt y = true⟩
instance : LE (Binary f) := ⟨fun x y => x.le y = true⟩
instance (x y : Binary f) : Decidable (x < y) := inferInstanceAs (Decidable (x.lt y = true))
instance (x y : Binary f) : Decidable (x ≤ y) := inferInstanceAs (Decidable (x.le y = true))

theorem lt_iff {x y : Binary f} :
    x < y ↔ ∃ a b, x.rank? = some a ∧ y.rank? = some b ∧ a < b := by
  show x.lt y = true ↔ _
  cases hx : x.rank? <;> cases hy : y.rank? <;> simp [lt, hx, hy]

theorem le_iff {x y : Binary f} :
    x ≤ y ↔ ∃ a b, x.rank? = some a ∧ y.rank? = some b ∧ a ≤ b := by
  show x.le y = true ↔ _
  cases hx : x.rank? <;> cases hy : y.rank? <;> simp [le, hx, hy]

/-- The smaller operand, the left of two equal ones; a not-a-number is ignored. -/
def least (x y : Binary f) : Binary f :=
  if x.isNaN then y else if y < x then y else x

def greatest (x y : Binary f) : Binary f :=
  if x.isNaN then y else if x < y then y else x

def mul : Binary f → Binary f → Binary f
  | number s a _, number t b _ =>
    if a = f.infinity ∨ b = f.infinity then
      if a = 0 ∨ b = 0 then nan else infinity (s ^^ t)
    else rounded (s ^^ t) (f.units a * f.units b) f.unitsPerOne
  | _, _ => nan

def div : Binary f → Binary f → Binary f
  | number s a _, number t b _ =>
    if a = f.infinity then
      if b = f.infinity then nan else infinity (s ^^ t)
    else if b = f.infinity then signedZero (s ^^ t)
    else if b = 0 then
      if a = 0 then nan else infinity (s ^^ t)
    else rounded (s ^^ t) (f.units a * f.unitsPerOne) (f.units b)
  | _, _ => nan

instance : Mul (Binary f) := ⟨mul⟩
instance : Div (Binary f) := ⟨div⟩

def ofNat (n : Nat) : Binary f := rounded false (n * f.unitsPerOne) 1

def ofInt : Int → Binary f
  | .ofNat n => ofNat n
  | .negSucc n => (ofNat (n + 1)).negate

instance (n : Nat) : OfNat (Binary f) n := ⟨ofNat n⟩

def ofDecimal (negative : Bool) (digits : Nat) (exponent : Int) : Binary f :=
  if 0 ≤ exponent then rounded negative (digits * Nat.pow 10 exponent.toNat * f.unitsPerOne) 1
  else rounded negative (digits * f.unitsPerOne) (Nat.pow 10 (-exponent).toNat)

instance : OfScientific (Binary f) where
  ofScientific digits negativeExponent exponent :=
    ofDecimal false digits (if negativeExponent then -(exponent : Int) else exponent)

def convert (g : BinaryFormat) : Binary f → Binary g
  | nan => nan
  | number negative code _ =>
    if code = f.infinity then infinity negative
    else rounded negative (f.units code * g.unitsPerOne) f.unitsPerOne

/-- The interchange pattern; a not-a-number has the quiet pattern without payload. -/
def toBits : Binary f → Nat
  | nan => f.infinity + f.binade / 2
  | number false code _ => code
  | number true code _ => (1 <<< (f.fractionBits + f.exponentBits)) + code

end Binary

end WildlifeWarning
