import WildlifeWarning.Number.Binary
import WildlifeWarning.Level
import WildlifeWarning.Geometry.Layout
import WildlifeWarning.Page

/-! Byte layouts of the pages that the gateway sends to the monitoring application, and of the LED
frame for the mesh. Byte 0 is the tag, byte 1 the message id, and words have their low byte
first. -/

namespace WildlifeWarning

def lowByte (word : UInt16) : UInt8 := UInt8.ofNat (word.toNat % 256)
def highByte (word : UInt16) : UInt8 := UInt8.ofNat (word.toNat / 256)

/-- The word with these bytes, the low one first. -/
def wordOfBytes (low high : UInt8) : UInt16 := UInt16.ofNat (low.toNat + 256 * high.toNat)

@[simp] theorem wordOfBytes_bytes (word : UInt16) :
    wordOfBytes (lowByte word) (highByte word) = word := by
  have := word.toNat_lt
  apply UInt16.toNat_inj.1
  simp only [wordOfBytes, lowByte, highByte, UInt8.toNat_ofNat', UInt16.toNat_ofNat']
  omega

@[simp] theorem lowByte_wordOfBytes (low high : UInt8) : lowByte (wordOfBytes low high) = low := by
  have := low.toNat_lt
  have := high.toNat_lt
  apply UInt8.toNat_inj.1
  simp only [wordOfBytes, lowByte, UInt8.toNat_ofNat', UInt16.toNat_ofNat']
  omega

@[simp] theorem highByte_wordOfBytes (low high : UInt8) :
    highByte (wordOfBytes low high) = high := by
  have := low.toNat_lt
  have := high.toNat_lt
  apply UInt8.toNat_inj.1
  simp only [wordOfBytes, highByte, UInt8.toNat_ofNat', UInt16.toNat_ofNat']
  omega

def flagByte (flag : Bool) : UInt8 := if flag then 1 else 0

def padding : UInt8 := 0xFF

namespace Cell

/-- The cell in one byte: row in the high four bits, column in the low four. -/
def code (c : Cell) : UInt8 := UInt8.ofNat (c.row % 16 * 16 + c.col % 16)

theorem code_inj {a b : Cell} (ha : a.col < 16 ∧ a.row < 16) (hb : b.col < 16 ∧ b.row < 16) :
    a.code = b.code ↔ a = b := by
  constructor
  · intro h
    have := congrArg UInt8.toNat h
    simp only [code, UInt8.toNat_ofNat'] at this
    cases a
    cases b
    simp_all only [Cell.mk.injEq]
    omega
  · rintro rfl
    rfl

end Cell

/-- What a page says. The value of a cell stands by its interchange pattern. -/
inductive Content where
  | ranging (node : NodeId) (rotation : Octant) (distanceCm : UInt16) (zone : UInt8)
  | motion (node : NodeId) (rotation : Octant) (detected : Bool)
  | activity (cell : Cell) (pattern : UInt32) (class_ : Classification)
  | indicator (node : NodeId) (function : LedFunction) (colour : LedColour)
  | health (tag : PageTag) (key : SensorKey) (flag : Bool)
  deriving DecidableEq

namespace Content

def tag : Content → PageTag
  | ranging .. => .rangingSample
  | motion .. => .motionSample
  | activity .. => .activity
  | indicator .. => .indicator
  | health tag .. => tag

def body : Content → Vector UInt8 6
  | ranging node rotation distanceCm zone =>
    #v[lowByte node, highByte node, rotation.toByte, lowByte distanceCm, highByte distanceCm, zone]
  | motion node rotation detected =>
    #v[lowByte node, highByte node, rotation.toByte, flagByte detected, 0, 0]
  | activity cell pattern class_ =>
    let bits := pattern.toNat
    #v[cell.code, UInt8.ofNat bits, UInt8.ofNat (bits >>> 8), UInt8.ofNat (bits >>> 16),
      UInt8.ofNat (bits >>> 24), class_.code]
  | indicator node function colour =>
    #v[lowByte node, highByte node, function.code, colour.code, padding, padding]
  | health _ key flag =>
    #v[lowByte key.node, highByte key.node, key.kind.code, key.rotation.toByte, flagByte flag,
      padding]

def page (c : Content) (messageId : UInt8) : Payload :=
  let b := c.body
  #v[c.tag.code, messageId, b[0], b[1], b[2], b[3], b[4], b[5]]

end Content

inductive Report where
  | ranging (node : NodeId) (rotation : Octant) (distanceCm : UInt16) (zone : UInt8)
  | motion (node : NodeId) (rotation : Octant) (detected : Bool)
  | activity (cell : Cell) (value : Single) (class_ : Classification)
  | indicator (node : NodeId) (function : LedFunction) (colour : LedColour)
  | health (tag : PageTag) (key : SensorKey) (flag : Bool)
  deriving DecidableEq

namespace Report

def ofCommand (c : IndicatorCommand) : Report := .indicator c.node c.function c.colour

def content : Report → Content
  | ranging node rotation distanceCm zone => .ranging node rotation distanceCm zone
  | motion node rotation detected => .motion node rotation detected
  | activity cell value class_ => .activity cell (.ofNat value.toBits) class_
  | indicator node function colour => .indicator node function colour
  | health tag key flag => .health tag key flag

def tag (r : Report) : PageTag := r.content.tag

def page (r : Report) (messageId : UInt8) : Payload := r.content.page messageId

@[simp] theorem page_tag (r : Report) (messageId : UInt8) :
    (r.page messageId).byte 0 = r.tag.code := rfl

end Report

def IndicatorCommand.meshFrame (c : IndicatorCommand) : Vector UInt8 5 :=
  #v[0x03, c.function.code, c.colour.code, padding, padding]

end WildlifeWarning
