import WildlifeWarning.Text.Hex
import WildlifeWarning.Text.Json.Number

/-! The tokens of a JSON text. -/

namespace WildlifeWarning.Json

inductive Token where
  | openList
  | closeList
  | openRecord
  | closeRecord
  | comma
  | colon
  /-- A string; its text is missing if it holds half a surrogate pair. -/
  | string (text : Option String)
  /-- A number or one of the three names. -/
  | scalar (value : Datum)

namespace Token

def unit? (a b c d : Char) : Option Nat := do
  let digits ← [a, b, c, d].mapM Hex.value?
  some (digits.foldl (fun value digit => value * 16 + digit) 0)

def escaped? : Char → Option Char
  | '"' => some '"'
  | '\\' => some '\\'
  | '/' => some '/'
  | 'b' => some '\x08'
  | 'f' => some '\x0c'
  | 'n' => some '\n'
  | 'r' => some '\r'
  | 't' => some '\t'
  | _ => none

/-- What one character or escape of a string stands for. -/
inductive Piece where
  | char (c : Char)
  | unit (n : Nat)

/-- The pieces of a string from behind its opening quote, and what follows its closing one. -/
def pieces? : List Char → Option (List Piece × List Char)
  | '"' :: rest => some ([], rest)
  | '\\' :: 'u' :: a :: b :: c :: d :: rest =>
    (unit? a b c d).bind fun n => (pieces? rest).map fun (ps, after) => (.unit n :: ps, after)
  | '\\' :: e :: rest =>
    (escaped? e).bind fun c => (pieces? rest).map fun (ps, after) => (.char c :: ps, after)
  | c :: rest =>
    if c.toNat < 0x20 then none
    else (pieces? rest).map fun (ps, after) => (.char c :: ps, after)
  | [] => none

theorem length_of_pieces? {cs rest : List Char} {ps : List Piece}
    (h : pieces? cs = some (ps, rest)) : rest.length < cs.length := by
  fun_induction pieces? cs generalizing ps rest with
  | case1 => simp_all
  | case2 a b c d rest' ih =>
    obtain ⟨_, _, h⟩ := Option.bind_eq_some_iff.1 h
    obtain ⟨⟨_, after⟩, found, h⟩ := Option.map_eq_some_iff.1 h
    have := ih found
    cases h
    simp only [List.length_cons]
    omega
  | case3 e rest' _ ih =>
    obtain ⟨_, _, h⟩ := Option.bind_eq_some_iff.1 h
    obtain ⟨⟨_, after⟩, found, h⟩ := Option.map_eq_some_iff.1 h
    have := ih found
    cases h
    simp only [List.length_cons]
    omega
  | case4 => contradiction
  | case5 c rest' _ _ _ _ ih =>
    obtain ⟨⟨_, after⟩, found, h⟩ := Option.map_eq_some_iff.1 h
    have := ih found
    cases h
    simp only [List.length_cons]
    omega
  | case6 => contradiction

def isHigh (unit : Nat) : Bool := 0xD800 ≤ unit && unit < 0xDC00

def isLow (unit : Nat) : Bool := 0xDC00 ≤ unit && unit < 0xE000

/-- The text of the pieces, halves of a surrogate pair joined; none if half a pair stands alone. -/
def join? : List Piece → Option (List Char)
  | [] => some []
  | .char c :: rest => (join? rest).map (c :: ·)
  | .unit high :: .unit low :: rest =>
    if isHigh high then
      if isLow low then
        (join? rest).map (Char.ofNat (0x10000 + (high - 0xD800) * 0x400 + (low - 0xDC00)) :: ·)
      else none
    else if isLow high then none
    else (join? (.unit low :: rest)).map (Char.ofNat high :: ·)
  | .unit n :: rest =>
    if isHigh n || isLow n then none else (join? rest).map (Char.ofNat n :: ·)

def isSpace (c : Char) : Bool := c == ' ' || c == '\n' || c == '\t' || c == '\r'

/-- Characters of numerals; a numeral ends before any other. -/
def isNumeral (c : Char) : Bool :=
  isDigit c || c == '-' || c == '+' || c == '.' || c == 'e' || c == 'E'

def punctuation? : Char → Option Token
  | '[' => some openList
  | ']' => some closeList
  | '{' => some openRecord
  | '}' => some closeRecord
  | ',' => some comma
  | ':' => some colon
  | _ => none

def next? : List Char → Option (Token × List Char)
  | 't' :: 'r' :: 'u' :: 'e' :: rest => some (scalar (.bool true), rest)
  | 'f' :: 'a' :: 'l' :: 's' :: 'e' :: rest => some (scalar (.bool false), rest)
  | 'n' :: 'u' :: 'l' :: 'l' :: rest => some (scalar .null, rest)
  | '"' :: rest =>
    (pieces? rest).map fun (ps, after) => (string ((join? ps).map String.ofList), after)
  | c :: rest =>
    match punctuation? c with
    | some token => some (token, rest)
    | none =>
      (Numeral.ofText? (c :: rest.takeWhile isNumeral)).map fun numeral =>
        (scalar numeral.value, rest.dropWhile isNumeral)
  | [] => none

theorem length_of_next? {cs rest : List Char} {token : Token}
    (h : next? cs = some (token, rest)) : rest.length < cs.length := by
  unfold next? at h
  split at h
  · grind
  · grind
  · grind
  · obtain ⟨⟨_, after⟩, found, h⟩ := Option.map_eq_some_iff.1 h
    have := length_of_pieces? found
    grind
  · next c rest' _ _ _ _ =>
    have shorter : (rest'.dropWhile isNumeral).length ≤ rest'.length :=
      (List.dropWhile_sublist isNumeral).length_le
    split at h
    · grind
    · obtain ⟨_, _, h⟩ := Option.map_eq_some_iff.1 h
      cases h
      exact Nat.lt_succ_of_le shorter
  · contradiction

def scan : List Char → Option (List Token)
  | [] => some []
  | c :: rest =>
    if isSpace c then scan rest
    else match _found : next? (c :: rest) with
      | none => none
      | some (token, after) => (scan after).map (token :: ·)
termination_by cs => cs.length
decreasing_by
  · simp
  · exact length_of_next? ‹_›

end Token

end WildlifeWarning.Json
