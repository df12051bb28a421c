import Mathlib.Data.Nat.Bitwise
import WildlifeWarning.Page.Inbound

/-! Pages from the air are read as they are written.
A placement is read back from its page if its coordinates fit into four bits, and a page is written
as it was read but for the bits that no field uses. -/

namespace WildlifeWarning

theorem toNat_toUInt8 (n : Int8) : (n.toUInt8.toNat : Int) = n.toInt % 256 := by
  have signed : n.toInt = n.toBitVec.toInt := rfl
  have unsigned : n.toUInt8.toNat = n.toBitVec.toNat := rfl
  have small := n.toBitVec.isLt
  rw [BitVec.toInt_eq_toNat_cond] at signed
  omega

theorem toInt_ofNibble (bits : Nat) :
    (ofNibble bits).toInt = if bits % 16 < 8 then (bits % 16 : Int) else bits % 16 - 16 := by
  simp only [ofNibble]
  rw [Int8.toInt_ofInt_of_le]
  · split <;> simp
  all_goals split <;> omega

theorem toNat_ofNibble (bits : Nat) : (ofNibble bits).toUInt8.toNat % 16 = bits % 16 := by
  have byte := toNat_toUInt8 (ofNibble bits)
  rw [toInt_ofNibble] at byte
  split at byte <;> omega

theorem ofNibble_of_mod {n : Int8} (fits : -8 ≤ n.toInt ∧ n.toInt ≤ 7) {bits : Nat}
    (low : bits % 16 = n.toUInt8.toNat % 16) : ofNibble bits = n := by
  have byte := toNat_toUInt8 n
  apply Int8.toInt_inj.1
  rw [toInt_ofNibble]
  split <;> omega

example : ofNibble 0x78 = -8 := ofNibble_of_mod (by decide) (by decide)

theorem toNat_nibbles (low high : Int8) :
    (nibbles low high).toNat = low.toUInt8.toNat % 16 + 16 * (high.toUInt8.toNat % 16) := by
  rw [nibbles, UInt8.toNat_ofNat']
  omega

theorem nibbles_ofNibble (byte : UInt8) :
    nibbles (ofNibble byte.toNat) (ofNibble (byte.toNat / 16)) = byte := by
  have small := byte.toNat_lt
  apply UInt8.toNat_inj.1
  rw [toNat_nibbles, toNat_ofNibble, toNat_ofNibble]
  omega

theorem NodeType.bits_ofBits (byte : UInt8) : (ofBits byte).bits = byte &&& 0x03 := by
  have masked : (byte &&& 0x03).toNat = byte.toNat % 4 := by
    rw [UInt8.toNat_and]
    exact Nat.and_two_pow_sub_one_eq_mod byte.toNat 2
  have low : byte.toNat % 4 = 0 ∨ byte.toNat % 4 = 1 ∨ byte.toNat % 4 = 2 ∨ byte.toNat % 4 = 3 := by
    omega
  apply UInt8.toNat_inj.1
  rw [masked]
  rcases low with low | low | low | low <;> simp [ofBits, bits, low]

theorem Octant.toByte_ofBits (byte : UInt8) : (ofBits byte).toByte = byte &&& 0x07 := by
  have masked : (byte &&& 0x07).toNat = byte.toNat % 8 := by
    rw [UInt8.toNat_and]
    exact Nat.and_two_pow_sub_one_eq_mod byte.toNat 3
  apply UInt8.toNat_inj.1
  rw [masked, toByte, UInt8.toNat_ofNat']
  simp only [ofBits]
  omega

theorem requireTag_of_eq {payload : Payload} {tag : PageTag} (own : payload.byte 0 = tag.code) :
    requireTag payload tag = .ok () := if_pos own

theorem requireTag_of_ne {payload : Payload} {tag : PageTag} (other : payload.byte 0 ≠ tag.code) :
    requireTag payload tag = .error (.malformedPage tag ⟨payload.byte 0⟩) := if_neg other

namespace Placement

/-- The placement that a page under the right tag names. -/
def named (payload : Payload) : Placement where
  node := wordOfBytes (payload.byte 1) (payload.byte 2)
  type := .ofBits (payload.byte 3)
  rotation := .ofBits (payload.byte 4)
  position := ⟨ofNibble (payload.byte 5).toNat, ofNibble ((payload.byte 5).toNat / 16)⟩
  offset := ⟨(payload.byte 6).toInt8, (payload.byte 7).toInt8⟩

theorem ofPage_eq_named {payload : Payload} (own : payload.byte 0 = PageTag.position.code) :
    ofPage payload = .ok (named payload) := by
  rw [ofPage, requireTag_of_eq own]
  rfl

theorem ofPage_of_ne {payload : Payload} (other : payload.byte 0 ≠ PageTag.position.code) :
    ofPage payload = .error (.malformedPage .position ⟨payload.byte 0⟩) := by
  rw [ofPage, requireTag_of_ne other]
  rfl

def Fits (p : Placement) : Prop :=
  (-8 ≤ p.position.x.toInt ∧ p.position.x.toInt ≤ 7) ∧
    (-8 ≤ p.position.y.toInt ∧ p.position.y.toInt ≤ 7)

theorem named_page {p : Placement} (fits : p.Fits) : named p.page = p := by
  have x : ofNibble (nibbles p.position.x p.position.y).toNat = p.position.x := by
    refine ofNibble_of_mod fits.1 ?_
    rw [toNat_nibbles]
    omega
  have y : ofNibble ((nibbles p.position.x p.position.y).toNat / 16) = p.position.y := by
    refine ofNibble_of_mod fits.2 ?_
    rw [toNat_nibbles]
    omega
  calc named p.page
      = ⟨wordOfBytes (lowByte p.node) (highByte p.node),
          ⟨ofNibble (nibbles p.position.x p.position.y).toNat,
            ofNibble ((nibbles p.position.x p.position.y).toNat / 16)⟩,
          ⟨p.offset.x.toUInt8.toInt8, p.offset.y.toUInt8.toInt8⟩,
          .ofBits p.rotation.toByte, .ofBits p.type.bits⟩ := rfl
    _ = p := by
      rw [wordOfBytes_bytes, x, y, Int8.toInt8_toUInt8, Int8.toInt8_toUInt8,
        Octant.ofBits_toByte, NodeType.ofBits_bits]

theorem page_named {payload : Payload} (own : payload.byte 0 = PageTag.position.code) :
    (named payload).page =
      #v[payload.byte 0, payload.byte 1, payload.byte 2, payload.byte 3 &&& 0x03,
        payload.byte 4 &&& 0x07, payload.byte 5, payload.byte 6, payload.byte 7] := by
  rw [page, named, lowByte_wordOfBytes, highByte_wordOfBytes, NodeType.bits_ofBits,
    Octant.toByte_ofBits, nibbles_ofNibble, UInt8.toUInt8_toInt8, UInt8.toUInt8_toInt8, own]

end Placement

namespace Acknowledgement

theorem ofPage_eq {payload : Payload} (own : payload.byte 0 = PageTag.acknowledgement.code) :
    ofPage payload = .ok ⟨⟨payload.byte 2⟩, payload.byte 1⟩ := by
  rw [ofPage, requireTag_of_eq own]
  rfl

theorem ofPage_of_ne {payload : Payload}
    (other : payload.byte 0 ≠ PageTag.acknowledgement.code) :
    ofPage payload = .error (.malformedPage .acknowledgement ⟨payload.byte 0⟩) := by
  rw [ofPage, requireTag_of_ne other]
  rfl

end Acknowledgement

/-- A placement whose coordinates fit into four bits is read back from its page, and so is every
acknowledgment. What was read from a page writes that page again, without the bits that the type
and the rotation do not use, and an acknowledgment without the bytes behind its own. A page under
any other tag is refused as malformed. -/
theorem pages_read_back (c : Placement) (a : Acknowledgement) (p : Payload) :
    (c.Fits → Placement.ofPage c.page = .ok c) ∧
    (p.byte 0 = 0x11 → ∃ d, Placement.ofPage p = .ok d ∧
      d.page = #v[p.byte 0, p.byte 1, p.byte 2, p.byte 3 &&& 0x03, p.byte 4 &&& 0x07, p.byte 5,
        p.byte 6, p.byte 7]) ∧
    (p.byte 0 ≠ 0x11 → Placement.ofPage p = .error (.malformedPage .position ⟨p.byte 0⟩)) ∧
    Acknowledgement.ofPage a.encode = .ok a ∧
    (p.byte 0 = 0x20 → ∃ b, Acknowledgement.ofPage p = .ok b ∧
      b.encode = #v[p.byte 0, p.byte 1, p.byte 2, 0, 0, 0, 0, 0]) ∧
    (p.byte 0 ≠ 0x20 →
      Acknowledgement.ofPage p = .error (.malformedPage .acknowledgement ⟨p.byte 0⟩)) := by
  refine ⟨fun fits => ?_, fun own => ?_, Placement.ofPage_of_ne,
    Acknowledgement.ofPage_encode a, fun own => ?_, Acknowledgement.ofPage_of_ne⟩
  · rw [Placement.ofPage_eq_named rfl, Placement.named_page fits]
  · exact ⟨_, Placement.ofPage_eq_named own, Placement.page_named own⟩
  · refine ⟨_, Acknowledgement.ofPage_eq own, ?_⟩
    rw [Acknowledgement.encode, own]
    rfl

/-- A placement in the last corner that a page can name, and a page with every unused bit set. -/
theorem pages_read_back_corner :
    let c : Placement :=
      ⟨0x0201, ⟨-8, 7⟩, ⟨-128, 127⟩, Facing.left.octant, .pirLidarLed⟩
    let p : Payload := #v[0x11, 1, 2, 0xFF, 0xFE, 0x78, 0x80, 0x7F]
    c.Fits ∧ Placement.ofPage c.page = .ok c ∧
      (∃ d, Placement.ofPage p = .ok d ∧ d.page = #v[0x11, 1, 2, 3, 6, 0x78, 0x80, 0x7F]) ∧
      Acknowledgement.ofPage p = .error (.malformedPage .acknowledgement ⟨0x11⟩) := by
  intro c p
  have fits : c.Fits := by
    unfold Placement.Fits
    decide
  obtain ⟨back, again, -, -, -, refused⟩ :=
    pages_read_back c ⟨.motionSample, 0⟩ p
  obtain ⟨d, read, written⟩ := again rfl
  exact ⟨fits, back fits, ⟨d, read, written.trans (by decide)⟩, refused (by decide)⟩

end WildlifeWarning
