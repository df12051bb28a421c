import WildlifeWarning.Text.Hex

/-! Pages: the eight bytes sent in one channel period, their tags and their acknowledgment. -/

namespace WildlifeWarning

abbrev Payload := Vector UInt8 8

/-- Sent while nothing is queued. -/
def Payload.silence : Payload := Vector.replicate 8 0

def Payload.byte (p : Payload) (place : Nat) : UInt8 := p.getD place 0

/-- The first byte of a page, which names its layout. -/
structure PageTag where
  code : UInt8
  deriving DecidableEq

namespace PageTag

def position : PageTag := ⟨0x11⟩
def acknowledgement : PageTag := ⟨0x20⟩
def rangingSample : PageTag := ⟨0x21⟩
def motionSample : PageTag := ⟨0x22⟩
def activity : PageTag := ⟨0x23⟩
def indicator : PageTag := ⟨0x24⟩
def hyperactive : PageTag := ⟨0x25⟩
def inactive : PageTag := ⟨0x26⟩

def text (t : PageTag) : String := "0x" ++ String.ofList (Hex.byte .upper t.code)

end PageTag

/-- The monitoring application received the page `page` with this message id. -/
structure Acknowledgement where
  page : PageTag
  messageId : UInt8
  deriving DecidableEq

end WildlifeWarning
