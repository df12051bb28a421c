import WildlifeWarning.Text.Toml.Scalar
import WildlifeWarning.Text.Toml.Table

/-! Keys, strings and values of TOML documents. Each reader returns what is left of the text with
the proof that it is shorter, so that reading ends. -/

namespace WildlifeWarning.Toml

abbrev Rest (cs : List Char) := { rest : List Char // rest.length < cs.length }

abbrev Upto (cs : List Char) := { rest : List Char // rest.length ≤ cs.length }

def Upto.all (cs : List Char) : Upto cs := ⟨cs, Nat.le_refl _⟩

def Upto.after? {cs : List Char} (c : Char) (here : Upto cs) : Option (Rest cs) :=
  match here with
  | ⟨d :: rest, h⟩ => if d = c then some ⟨rest, h⟩ else none
  | ⟨[], _⟩ => none

def Rest.within {cs here : List Char} (shorter : here.length < cs.length) (rest : Rest here) :
    Rest cs := ⟨rest.1, Nat.lt_trans rest.2 shorter⟩

def Rest.skipping {cs here : List Char} (skipped : here.length ≤ cs.length) (rest : Rest here) :
    Rest cs := ⟨rest.1, Nat.lt_of_lt_of_le rest.2 skipped⟩

def Rest.behind {cs : List Char} (c : Char) (rest : Rest cs) : Rest (c :: cs) :=
  rest.within (Nat.lt_succ_self _)

def isSpace (c : Char) : Bool := c == ' ' || c == '\t'

def skipSpace (cs : List Char) : List Char := cs.dropWhile isSpace

theorem length_skipSpace_le (cs : List Char) : (skipSpace cs).length ≤ cs.length :=
  (List.dropWhile_sublist _).length_le

def spaces (cs : List Char) : Upto cs := ⟨skipSpace cs, length_skipSpace_le cs⟩

/-- Not a control character, the tab excepted. -/
def isPlain (c : Char) : Bool := c == '\t' || (0x20 ≤ c.toNat && c.toNat ≠ 0x7F)

/-- Skips spaces, line ends and comments; a comment holds no control characters. -/
def skipBlank? : Bool → List Char → Option (List Char)
  | _, [] => some []
  | _, '\n' :: rest => skipBlank? false rest
  | _, '\r' :: '\n' :: rest => skipBlank? false rest
  | true, c :: rest => if isPlain c then skipBlank? true rest else none
  | false, '#' :: rest => skipBlank? true rest
  | false, c :: rest => if isSpace c then skipBlank? false rest else some (c :: rest)

theorem length_skipBlank?_le {comment : Bool} {cs rest : List Char}
    (h : skipBlank? comment cs = some rest) : rest.length ≤ cs.length := by
  fun_induction skipBlank? comment cs with
  | case1 => simp_all
  | case2 _ _ ih => exact Nat.le_trans (ih h) (by simp)
  | case3 _ _ ih => exact Nat.le_trans (ih h) (by simp only [List.length_cons]; omega)
  | case4 _ _ _ _ _ ih | case6 _ ih => exact Nat.le_trans (ih h) (by simp)
  | case5 => contradiction
  | case7 _ _ _ _ _ _ ih => exact Nat.le_trans (ih h) (by simp)
  | case8 => cases h; exact Nat.le_refl _

def blanks? (cs : List Char) : Option (Upto cs) :=
  match found : skipBlank? false cs with
  | none => none
  | some rest => some ⟨rest, length_skipBlank?_le found⟩

def codePoint? (digits : List Char) : Option Char := do
  let values ← digits.mapM Hex.value?
  let n := values.foldl (fun n digit => n * 16 + digit) 0
  if n < 0xD800 ∨ (0xE000 ≤ n ∧ n < 0x110000) then some (Char.ofNat n) else none

def escaped? : Char → Option Char
  | 'b' => some '\x08'
  | 't' => some '\t'
  | 'n' => some '\n'
  | 'f' => some '\x0c'
  | 'r' => some '\r'
  | '"' => some '"'
  | '\\' => some '\\'
  | _ => none

def escape? : List Char → Option (Char × List Char)
  | 'u' :: a :: b :: c :: d :: rest => (codePoint? [a, b, c, d]).map (·, rest)
  | 'U' :: a :: b :: c :: d :: e :: f :: g :: h :: rest =>
    (codePoint? [a, b, c, d, e, f, g, h]).map (·, rest)
  | c :: rest => (escaped? c).map (·, rest)
  | [] => none

theorem length_of_escape? {cs rest : List Char} {c : Char} (h : escape? cs = some (c, rest)) :
    rest.length < cs.length := by
  unfold escape? at h
  split at h
  · obtain ⟨_, _, h⟩ := Option.map_eq_some_iff.1 h
    cases h
    simp only [List.length_cons]
    omega
  · obtain ⟨_, _, h⟩ := Option.map_eq_some_iff.1 h
    cases h
    simp only [List.length_cons]
    omega
  · obtain ⟨_, _, h⟩ := Option.map_eq_some_iff.1 h
    cases h
    simp
  · contradiction

/-- Spaces and line ends, which a backslash at the end of a line joins. -/
def isFold (c : Char) : Bool := isSpace c || c == '\n' || c == '\r'

/-- The rest of the line is blank, and it is not the last. -/
def endsLine (rest : List Char) : Bool :=
  match skipSpace rest with
  | '\n' :: _ => true
  | '\r' :: '\n' :: _ => true
  | _ => false

def unescape? : List Char → Option (List Char)
  | [] => some []
  | '\\' :: rest =>
    if endsLine rest then unescape? (rest.dropWhile isFold)
    else match _found : escape? rest with
      | none => none
      | some (c, more) => (unescape? more).map (c :: ·)
  | '\r' :: '\n' :: rest => (unescape? rest).map ('\n' :: ·)
  | c :: rest => (unescape? rest).map (c :: ·)
termination_by cs => cs.length
decreasing_by
  · exact Nat.lt_succ_of_le (List.dropWhile_sublist _).length_le
  · exact Nat.lt_succ_of_lt (length_of_escape? ‹_›)
  · simp only [List.length_cons]
    omega
  · simp

/-- The inside of a string on one line, and what follows its closing quote. -/
def inside? (quote : Char) (escapes : Bool) : List Char → Option (List Char × List Char)
  | [] => none
  | [c] => if c = quote then some ([], []) else none
  | c :: d :: rest =>
    if c = quote then some ([], d :: rest)
    else if escapes && c == '\\' then
      if isPlain d then
        (inside? quote escapes rest).map fun (body, after) => (c :: d :: body, after)
      else none
    else if isPlain c then
      (inside? quote escapes (d :: rest)).map fun (body, after) => (c :: body, after)
    else none

/-- The inside of a string of several lines, and what follows its closing quotes. Before those three
up to two more belong to the string. -/
def insideLines? (quote : Char) (escapes : Bool) : List Char → Option (List Char × List Char)
  | [] | [_] => none
  | c :: d :: rest =>
    if c = quote ∧ d = quote ∧ rest.head? = some quote then
      let more := rest.drop 1
      let extra := (more.takeWhile (· == quote)).take 2
      some (extra, more.drop extra.length)
    else if escapes && c == '\\' then
      (insideLines? quote escapes rest).map fun (body, after) => (c :: d :: body, after)
    else if isPlain c ∨ c = '\n' ∨ (c = '\r' ∧ d = '\n') then
      (insideLines? quote escapes (d :: rest)).map fun (body, after) => (c :: body, after)
    else none

theorem length_of_inside? {quote : Char} {escapes : Bool} {cs body after : List Char}
    (h : inside? quote escapes cs = some (body, after)) : after.length < cs.length := by
  fun_induction inside? quote escapes cs generalizing body after with
  | case4 => simp_all
  | case5 c d rest _ _ _ ih | case7 c d rest _ _ _ ih =>
    obtain ⟨⟨_, after⟩, found, h⟩ := Option.map_eq_some_iff.1 h
    have := ih found
    cases h
    simp only [List.length_cons] at *
    omega
  | _ => simp_all

theorem length_of_insideLines? {quote : Char} {escapes : Bool} {cs body after : List Char}
    (h : insideLines? quote escapes cs = some (body, after)) : after.length < cs.length := by
  fun_induction insideLines? quote escapes cs generalizing body after with
  | case3 c d rest _ =>
    cases h
    show (List.drop _ (List.drop 1 rest)).length < _
    simp only [List.length_drop, List.length_cons]
    omega
  | case4 c d rest _ _ ih | case5 c d rest _ _ _ ih =>
    obtain ⟨⟨_, after⟩, found, h⟩ := Option.map_eq_some_iff.1 h
    have := ih found
    cases h
    simp only [List.length_cons] at *
    omega
  | _ => contradiction

def skipLineEnd : List Char → List Char
  | '\n' :: rest => rest
  | '\r' :: '\n' :: rest => rest
  | cs => cs

theorem length_skipLineEnd_le (cs : List Char) : (skipLineEnd cs).length ≤ cs.length := by
  fun_cases skipLineEnd cs <;> simp
  omega

def readable? (escapes : Bool) (body : List Char) : Option String :=
  (if escapes then unescape? body else unescapeLines body).map String.ofList
where
  /-- Line ends of two characters become one. -/
  unescapeLines (body : List Char) : Option (List Char) := some (body.filter (· ≠ '\r'))

def line? (cs : List Char) : Option (String × Rest cs) :=
  match cs with
  | [] => none
  | quote :: rest =>
    if quote = '"' ∨ quote = '\'' then
      match found : inside? quote (quote = '"') rest with
      | none => none
      | some (body, after) =>
        (readable? (quote = '"') body).map (·, ⟨after, Nat.lt_succ_of_lt (length_of_inside? found)⟩)
    else none

def string? (cs : List Char) : Option (String × Rest cs) :=
  match cs with
  | quote :: a :: b :: rest =>
    if quote = '"' ∨ quote = '\'' then
      if a = quote ∧ b = quote then
        match found : insideLines? quote (quote = '"') (skipLineEnd rest) with
        | none => none
        | some (body, after) =>
          (readable? (quote = '"') body).map (·, ⟨after, by
            have := length_of_insideLines? found
            have := length_skipLineEnd_le rest
            simp only [List.length_cons]
            omega⟩)
      else line? (quote :: a :: b :: rest)
    else none
  | cs => line? cs

def isBare (c : Char) : Bool :=
  ('a' ≤ c && c ≤ 'z') || ('A' ≤ c && c ≤ 'Z') || isDigit c || c == '_' || c == '-'

def run? (holds : Char → Bool) (cs : List Char) : Option (List Char × Rest cs) :=
  match cs with
  | [] => none
  | c :: rest =>
    if holds c then
      some (c :: rest.takeWhile holds,
        ⟨rest.dropWhile holds, Nat.lt_succ_of_le (List.dropWhile_sublist _).length_le⟩)
    else none

def part? (cs : List Char) : Option (String × Rest cs) :=
  match line? cs with
  | some found => some found
  | none => (run? isBare cs).map fun (name, after) => (String.ofList name, after)

/-- The parts of a key: dots between them, spaces around the dots. -/
def parts? (cs : List Char) : Option (List String × Rest cs) :=
  match part? cs with
  | none => none
  | some (name, ⟨after, shorter⟩) =>
    match (spaces after).after? '.' with
    | none => some ([name], ⟨after, shorter⟩)
    | some ⟨rest, gap⟩ =>
      have step : (skipSpace rest).length < cs.length :=
        Nat.lt_of_le_of_lt (length_skipSpace_le rest) (Nat.lt_trans gap shorter)
      (parts? (skipSpace rest)).map fun (names, last) => (name :: names, last.within step)
termination_by cs.length

/-- The most parts of a key, and the most arrays and inline tables around one another. -/
def maxDepth : Nat := 79

def key? (cs : List Char) : Option (List String × Rest cs) :=
  (parts? cs).filter fun (names, _) => names.length ≤ maxDepth

def splitLast? (names : List String) : Option (List String × String) :=
  names.getLast?.map (names.dropLast, ·)

def inline? (pairs : List (List String × Datum)) : Option Datum :=
  (pairs.foldlM (fun es (names, d) =>
    (splitLast? names).bind fun (path, key) => Entries.assign path key d es) []).map
      fun es => (Node.table false false es).datum

def isWord (c : Char) : Bool := isBare c || c == '+' || c == '.' || c == ':'

/-- A word. A date takes the word behind one space with it if that begins with a digit. -/
def word? (cs : List Char) : Option (List Char × Rest cs) :=
  match run? isWord cs with
  | none => none
  | some (word, ⟨after, shorter⟩) =>
    match (spaceBeforeDigit after).filter fun _ => isDate word with
    | none => some (word, ⟨after, shorter⟩)
    | some gap =>
      (run? isWord gap.1).map fun (time, last) =>
        (word ++ ' ' :: time, (last.within gap.2).within shorter)
where
  spaceBeforeDigit (cs : List Char) : Option (Rest cs) :=
    ((Upto.all cs).after? ' ').filter fun rest => rest.1.head?.any isDigit

def assignment? (cs : List Char) : Option (List String × Rest cs) :=
  (key? cs).bind fun (names, ⟨after, shorter⟩) =>
    ((spaces after).after? '=').map fun ⟨rest, gap⟩ =>
      (names, ⟨skipSpace rest,
        Nat.lt_of_le_of_lt (length_skipSpace_le rest) (Nat.lt_trans gap shorter)⟩)

mutual

/-- A value in which so many arrays and inline tables may stand around one another. -/
def value? (room : Nat) (cs : List Char) : Option (Datum × Rest cs) :=
  match room, cs with
  | 0, '[' :: _ | 0, '{' :: _ => none
  | room + 1, '[' :: rest =>
    (items? room rest).map fun (items, after) => (.list items, after.behind _)
  | room + 1, '{' :: rest =>
    match (spaces rest).after? '}' with
    | some after => some (.record [], after.behind _)
    | none => (pairs? room rest).bind fun (pairs, after) => (inline? pairs).map (·, after.behind _)
  | _, cs =>
    match string? cs with
    | some (text, after) => some (.text text, after)
    | none => (word? cs).bind fun (word, after) => (scalar? word).map (·, after)
termination_by 2 * cs.length

/-- The items of an array from behind its bracket or a comma, to behind its closing bracket. -/
def items? (room : Nat) (cs : List Char) : Option (List Datum × Rest cs) :=
  match blanks? cs with
  | none => none
  | some ⟨here, start⟩ =>
    match Upto.after? ']' ⟨here, start⟩ with
    | some after => some ([], after)
    | none =>
      match value? room here with
      | none => none
      | some (d, ⟨next, step⟩) =>
        have inner : next.length < cs.length := Nat.lt_of_lt_of_le step start
        match blanks? next with
        | none => none
        | some gap =>
          match gap.after? ']', gap.after? ',' with
          | some after, _ => some ([d], after.within inner)
          | none, some ⟨more, step⟩ =>
            have shorter : more.length < cs.length := Nat.lt_trans step inner
            (items? room more).map fun (items, after) => (d :: items, after.within shorter)
          | none, none => none
termination_by 2 * cs.length + 1

/-- The pairs of an inline table from behind its brace or a comma, to behind its closing brace. -/
def pairs? (room : Nat) (cs : List Char) : Option (List (List String × Datum) × Rest cs) :=
  match assignment? (skipSpace cs) with
  | none => none
  | some (names, ⟨here, first⟩) =>
    have start : here.length < cs.length := Nat.lt_of_lt_of_le first (length_skipSpace_le cs)
    match value? room here with
    | none => none
    | some (d, ⟨next, step⟩) =>
      have inner : next.length < cs.length := Nat.lt_trans step start
      match (spaces next).after? '}', (spaces next).after? ',' with
      | some after, _ => some ([(names, d)], after.within inner)
      | none, some ⟨more, step⟩ =>
        have shorter : more.length < cs.length := Nat.lt_trans step inner
        (pairs? room more).map fun (pairs, after) => ((names, d) :: pairs, after.within shorter)
      | none, none => none
termination_by 2 * cs.length + 1

end

end WildlifeWarning.Toml
