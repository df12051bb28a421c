import WildlifeWarning.Text.Json.Token

/-! JSON texts: one value, read from its tokens with a stack of the containers that are open, and
the writing of values without spaces. A container that lies too deep, or a record with a name that
holds half a surrogate pair, is well-formed and unreadable. -/

namespace WildlifeWarning.Json

/-- A container whose end has not come yet, its content in reverse. -/
inductive Frame where
  | list (items : List Datum)
  /-- A record and the name whose value comes next. A name is missing if it cannot be read. -/
  | record (fields : List (Option String × Datum)) (name : Option String)

inductive Expecting where
  /-- A value, or the end of a list just opened. -/
  | firstItem
  | value
  /-- The name of a field, or the end of a record just opened. -/
  | firstName (fields : List (Option String × Datum))
  | name (fields : List (Option String × Datum))
  | colon (fields : List (Option String × Datum)) (name : Option String)
  /-- A comma or an end, after this value. -/
  | next (d : Datum)

/-- The depth of the deepest container that can be read; the outermost one has depth one. -/
def maxDepth : Nat := 127

def closed (outer : List Frame) (d : Datum) : Datum :=
  if outer.length < maxDepth then d else .unreadable

def recordOf (fields : List (Option String × Datum)) : Datum :=
  match fields.mapM fun (name, d) => name.map (·, d) with
  | some fields => .record fields.reverse
  | none => .unreadable

/-- One token. The frames are those of the containers around the present place. -/
def step (frames : List Frame) : Expecting → Token → Option (List Frame × Expecting)
  | .firstItem, .closeList =>
    match frames with
    | .list _ :: outer => some (outer, .next (closed outer (.list [])))
    | _ => none
  | .firstItem, token | .value, token =>
    match token with
    | .scalar d => some (frames, .next d)
    | .string (some s) => some (frames, .next (.text s))
    | .string none => some (frames, .next .unreadable)
    | .openList => some (.list [] :: frames, .firstItem)
    | .openRecord => some (frames, .firstName [])
    | _ => none
  | .firstName _, .closeRecord => some (frames, .next (closed frames (.record [])))
  | .firstName fields, .string name | .name fields, .string name =>
    some (frames, .colon fields name)
  | .colon fields name, .colon => some (.record fields name :: frames, .value)
  | .next d, token =>
    match frames, token with
    | .list items :: outer, .comma => some (.list (d :: items) :: outer, .value)
    | .list items :: outer, .closeList =>
      some (outer, .next (closed outer (.list (d :: items).reverse)))
    | .record fields name :: outer, .comma => some (outer, .name ((name, d) :: fields))
    | .record fields name :: outer, .closeRecord =>
      some (outer, .next (closed outer (recordOf ((name, d) :: fields))))
    | _, _ => none
  | _, _ => none

def complete? : List Frame → Expecting → List Token → Option Datum
  | [], .next d, [] => some d
  | _, _, [] => none
  | frames, expecting, token :: rest =>
    (step frames expecting token).bind fun (frames, expecting) => complete? frames expecting rest

def parse? (text : String) : Option Datum :=
  (Token.scan text.toList).bind (complete? [] .value)

def quoted (s : String) : List Char :=
  '"' :: s.toList.flatMap (fun c =>
    if c = '"' then ['\\', '"']
    else if c = '\\' then ['\\', '\\']
    else if c.toNat < 0x20 then
      ['\\', 'u', '0', '0'] ++ Hex.byte .lower (UInt8.ofNat c.toNat)
    else [c]) ++ ['"']

mutual

/-- A value without spaces. What has no writing of its own is `null`. -/
def written : Datum → List Char
  | .null | .real _ | .unreadable => "null".toList
  | .bool b => (if b then "true" else "false").toList
  | .integer n => (toString n).toList
  | .text s => quoted s
  | .list items => '[' :: writtenItems items ++ [']']
  | .record fields => '{' :: writtenFields fields ++ ['}']

def writtenItems : List Datum → List Char
  | [] => []
  | [d] => written d
  | d :: rest => written d ++ ',' :: writtenItems rest

def writtenFields : List (String × Datum) → List Char
  | [] => []
  | [(name, d)] => quoted name ++ ':' :: written d
  | (name, d) :: rest => quoted name ++ ':' :: written d ++ ',' :: writtenFields rest

end

def render (d : Datum) : String := String.ofList (written d)

end WildlifeWarning.Json
