import WildlifeWarning.Fault
import WildlifeWarning.Page.Report

/-! Pages that reach the gateway over the air: node placements and acknowledgments.
A page is refused only for its first byte. -/

namespace WildlifeWarning

/-- The number from -8 to 7 with these four low bits. -/
def ofNibble (bits : Nat) : Int8 :=
  let nibble := bits % 16
  Int8.ofInt (if nibble < 8 then nibble else nibble - 16)

def nibbles (low high : Int8) : UInt8 :=
  UInt8.ofNat (low.toUInt8.toNat % 16 + 16 * (high.toUInt8.toNat % 16))

def requireTag (payload : Payload) (tag : PageTag) : Except Fault Unit :=
  if payload.byte 0 = tag.code then .ok () else .error (.malformedPage tag ⟨payload.byte 0⟩)

namespace Placement

def page (p : Placement) : Payload :=
  #v[PageTag.position.code, lowByte p.node, highByte p.node, p.type.bits, p.rotation.toByte,
    nibbles p.position.x p.position.y, p.offset.x.toUInt8, p.offset.y.toUInt8]

/-- Bits of the type and rotation bytes that those fields do not use are ignored. -/
def ofPage (payload : Payload) : Except Fault Placement := do
  requireTag payload .position
  return {
    node := wordOfBytes (payload.byte 1) (payload.byte 2)
    type := .ofBits (payload.byte 3)
    rotation := .ofBits (payload.byte 4)
    position := ⟨ofNibble (payload.byte 5).toNat, ofNibble ((payload.byte 5).toNat / 16)⟩
    offset := ⟨(payload.byte 6).toInt8, (payload.byte 7).toInt8⟩ }

end Placement

namespace Acknowledgement

def encode (a : Acknowledgement) : Payload :=
  #v[PageTag.acknowledgement.code, a.messageId, a.page.code, 0, 0, 0, 0, 0]

def ofPage (payload : Payload) : Except Fault Acknowledgement := do
  requireTag payload .acknowledgement
  return ⟨⟨payload.byte 2⟩, payload.byte 1⟩

theorem ofPage_encode (a : Acknowledgement) : ofPage a.encode = .ok a := rfl

end Acknowledgement

end WildlifeWarning
