import WildlifeWarning.Page.Report
import WildlifeWarning.Parameters

/-! Pages to the monitoring application lose nothing.
What a page says is read off its bytes again, so no two contents share a page, and the cells of a
usable grid do not share a code. -/

namespace WildlifeWarning

def patternOfBytes (first second third fourth : UInt8) : UInt32 :=
  UInt32.ofNat (first.toNat + 256 * second.toNat + 65536 * third.toNat + 16777216 * fourth.toNat)

theorem patternOfBytes_bytes (pattern : UInt32) :
    patternOfBytes (UInt8.ofNat pattern.toNat) (UInt8.ofNat (pattern.toNat >>> 8))
      (UInt8.ofNat (pattern.toNat >>> 16)) (UInt8.ofNat (pattern.toNat >>> 24)) = pattern := by
  have small := pattern.toNat_lt
  apply UInt32.toNat_inj.1
  simp only [patternOfBytes, UInt8.toNat_ofNat', UInt32.toNat_ofNat', Nat.shiftRight_eq_div_pow]
  omega

def Cell.ofCode (byte : UInt8) : Cell := ⟨byte.toNat % 16, byte.toNat / 16⟩

theorem Cell.ofCode_code {c : Cell} (col : c.col < 16) (row : c.row < 16) : ofCode c.code = c := by
  obtain ⟨x, y⟩ := c
  simp only [ofCode, code, UInt8.toNat_ofNat', Cell.mk.injEq] at col row ⊢
  omega

def Classification.ofCode (byte : UInt8) : Classification :=
  if byte = 0 then idle else if byte = 1 then possible else detected

@[simp] theorem Classification.ofCode_code (c : Classification) : ofCode c.code = c := by
  cases c <;> rfl

def LedFunction.ofCode (byte : UInt8) : LedFunction :=
  if byte = 0 then off else if byte = 1 then blinking else solid

@[simp] theorem LedFunction.ofCode_code (f : LedFunction) : ofCode f.code = f := by
  cases f <;> rfl

def LedColour.ofCode (byte : UInt8) : LedColour := if byte = 0 then yellow else red

@[simp] theorem LedColour.ofCode_code (c : LedColour) : ofCode c.code = c := by
  cases c <;> rfl

def SensorKind.ofCode (byte : UInt8) : SensorKind := if byte = 1 then motion else ranging

@[simp] theorem SensorKind.ofCode_code (k : SensorKind) : ofCode k.code = k := by
  cases k <;> rfl

@[simp] theorem flagByte_ne_zero (flag : Bool) : (flagByte flag != 0) = flag := by
  cases flag <;> rfl

namespace Content

/-- The cell has a code of its own, and a report on a sensor goes under one of the tags for it. -/
def Fits : Content → Prop
  | activity cell _ _ => cell.col < 16 ∧ cell.row < 16
  | health tag _ _ => tag = .hyperactive ∨ tag = .inactive
  | _ => True

def read? (payload : Payload) : Option Content :=
  let tag : PageTag := ⟨payload.byte 0⟩
  let node := wordOfBytes (payload.byte 2) (payload.byte 3)
  if tag = .rangingSample then
    some (.ranging node (.ofBits (payload.byte 4))
      (wordOfBytes (payload.byte 5) (payload.byte 6)) (payload.byte 7))
  else if tag = .motionSample then
    some (.motion node (.ofBits (payload.byte 4)) (payload.byte 5 != 0))
  else if tag = .activity then
    some (.activity (.ofCode (payload.byte 2))
      (patternOfBytes (payload.byte 3) (payload.byte 4) (payload.byte 5) (payload.byte 6))
      (.ofCode (payload.byte 7)))
  else if tag = .indicator then
    some (.indicator node (.ofCode (payload.byte 4)) (.ofCode (payload.byte 5)))
  else if tag = .hyperactive ∨ tag = .inactive then
    some (.health tag ⟨node, .ofBits (payload.byte 5), .ofCode (payload.byte 4)⟩
      (payload.byte 6 != 0))
  else none

theorem read?_page {c : Content} (fits : c.Fits) (messageId : UInt8) :
    read? (c.page messageId) = some c := by
  cases c with
  | ranging node rotation distanceCm zone =>
    calc read? ((ranging node rotation distanceCm zone).page messageId)
        = some (.ranging (wordOfBytes (lowByte node) (highByte node)) (.ofBits rotation.toByte)
            (wordOfBytes (lowByte distanceCm) (highByte distanceCm)) zone) := rfl
      _ = _ := by simp
  | motion node rotation detected =>
    calc read? ((motion node rotation detected).page messageId)
        = some (.motion (wordOfBytes (lowByte node) (highByte node)) (.ofBits rotation.toByte)
            (flagByte detected != 0)) := rfl
      _ = _ := by simp
  | activity cell pattern class_ =>
    have same : Cell.ofCode cell.code = cell := Cell.ofCode_code fits.1 fits.2
    calc read? ((activity cell pattern class_).page messageId)
        = some (.activity (.ofCode cell.code)
            (patternOfBytes (UInt8.ofNat pattern.toNat) (UInt8.ofNat (pattern.toNat >>> 8))
              (UInt8.ofNat (pattern.toNat >>> 16)) (UInt8.ofNat (pattern.toNat >>> 24)))
            (.ofCode class_.code)) := rfl
      _ = _ := by rw [same, patternOfBytes_bytes, Classification.ofCode_code]
  | indicator node function colour =>
    calc read? ((indicator node function colour).page messageId)
        = some (.indicator (wordOfBytes (lowByte node) (highByte node)) (.ofCode function.code)
            (.ofCode colour.code)) := rfl
      _ = _ := by simp
  | health tag key flag =>
    have said : read? ((health tag key flag).page messageId) =
        some (.health tag ⟨wordOfBytes (lowByte key.node) (highByte key.node),
          .ofBits key.rotation.toByte, .ofCode key.kind.code⟩ (flagByte flag != 0)) := by
      rcases fits with rfl | rfl <;> rfl
    rw [said]
    simp

theorem page_inj {c d : Content} {m n : UInt8} (hc : c.Fits) (hd : d.Fits)
    (same : c.page m = d.page n) : m = n ∧ c = d := by
  refine ⟨congrArg (Payload.byte · 1) same, ?_⟩
  have said : read? (c.page m) = read? (d.page n) := congrArg read? same
  rw [read?_page hc, read?_page hd] at said
  exact Option.some.inj said

end Content

theorem Parameters.nodes_le_of_valid {p : Parameters} (valid : p.validate = .ok ()) :
    p.grid.nodesX ≤ 15 ∧ p.grid.nodesY ≤ 15 := by
  have none := validate_eq_ok_iff.1 valid
  unfold misconfiguration? at none
  split at none
  · contradiction
  · next few =>
    simp only [not_or, gt_iff_lt, UInt8.not_lt] at few
    exact ⟨few.2.2.1, few.2.2.2⟩

theorem Layout.Contains.lt_sixteen {l : Layout} {c : Cell} (inside : l.Contains c)
    (few : l.nodesX ≤ 15 ∧ l.nodesY ≤ 15) : c.col < 16 ∧ c.row < 16 := by
  have x : l.nodesX.toNat ≤ 15 := few.1
  have y : l.nodesY.toNat ≤ 15 := few.2
  have col := inside.1
  have row := inside.2
  simp only [cols, rows] at col row
  omega

/-- Pages with the same bytes are of the same kind and agree in the message id and in every field,
also where the value of a cell is not a number. On every usable grid, cells with the same code are
the same. -/
theorem pages_tell_apart :
    (∀ (c d : Content) (m n : UInt8), c.Fits → d.Fits → c.page m = d.page n → m = n ∧ c = d) ∧
    ∀ p : Parameters, p.validate = .ok () → ∀ a b : Cell, p.grid.Contains a → p.grid.Contains b →
      a.code = b.code → a = b := by
  refine ⟨fun c d m n hc hd same => Content.page_inj hc hd same, ?_⟩
  intro p valid a b ha hb same
  have few := p.nodes_le_of_valid valid
  exact (Cell.code_inj (ha.lt_sixteen few) (hb.lt_sixteen few)).1 same

/-- A page given by its bytes that is known for the report of a value, and the largest grid. -/
theorem pages_tell_apart_largest :
    let c : Content := .activity ⟨13, 12⟩ 0x40866666 .possible
    let d : Content := (Report.activity ⟨13, 12⟩ 4.2 .possible).content
    let largest : Parameters := { grid := ⟨15, 15⟩ }
    c.page 7 = #v[0x23, 7, 0xCD, 0x66, 0x66, 0x86, 0x40, 1] ∧ c.Fits ∧ d.Fits ∧
      c.page 7 = d.page 7 ∧ ((7 : UInt8) = 7 ∧ c = d) ∧
      largest.validate = .ok () ∧ largest.grid.Contains ⟨13, 13⟩ ∧
      ∀ b, largest.grid.Contains b → Cell.code ⟨13, 13⟩ = b.code → ⟨13, 13⟩ = b := by
  intro c d largest
  have hc : c.Fits := ⟨by decide, by decide⟩
  have hd : d.Fits := ⟨by decide, by decide⟩
  have same : c.page 7 = d.page 7 := by decide +kernel
  have valid : largest.validate = .ok () := Parameters.validate_eq_ok_iff.2 (by decide +kernel)
  have corner : largest.grid.Contains ⟨13, 13⟩ := by decide
  exact ⟨by decide, hc, hd, same, pages_tell_apart.1 c d 7 7 hc hd same, valid, corner,
    fun b inside => pages_tell_apart.2 largest valid ⟨13, 13⟩ b corner inside⟩

end WildlifeWarning
