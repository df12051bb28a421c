/-! Bytes as pairs of hexadecimal digits. -/

namespace WildlifeWarning.Hex

inductive Case where
  | lower
  | upper

def digit (case : Case) (n : Nat) : Char :=
  if n < 10 then Char.ofNat ('0'.toNat + n)
  else match case with
    | .lower => Char.ofNat ('a'.toNat + (n - 10))
    | .upper => Char.ofNat ('A'.toNat + (n - 10))

def value? (c : Char) : Option Nat :=
  if '0' ≤ c ∧ c ≤ '9' then some (c.toNat - '0'.toNat)
  else if 'a' ≤ c ∧ c ≤ 'f' then some (c.toNat - 'a'.toNat + 10)
  else if 'A' ≤ c ∧ c ≤ 'F' then some (c.toNat - 'A'.toNat + 10)
  else none

def byte (case : Case) (b : UInt8) : List Char :=
  [digit case (b.toNat / 16), digit case (b.toNat % 16)]

def encode (case : Case) (bytes : List UInt8) : List Char := bytes.flatMap (byte case)

def decode? : List Char → Option (List UInt8)
  | [] => some []
  | [_] => none
  | high :: low :: rest => do
    let h ← value? high
    let l ← value? low
    let bytes ← decode? rest
    some (UInt8.ofNat (h * 16 + l) :: bytes)

end WildlifeWarning.Hex
