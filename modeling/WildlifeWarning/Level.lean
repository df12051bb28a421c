import WildlifeWarning.Node

/-! Threshold classes of cells, signalling levels of indicators, and the LED behaviour that shows
a level to drivers. -/

namespace WildlifeWarning

inductive Classification where
  | idle
  | possible
  | detected
  deriving DecidableEq, Repr

def Classification.code : Classification → UInt8
  | idle => 0
  | possible => 1
  | detected => 2

inductive Level where
  | idle
  | concern
  | alarm
  deriving DecidableEq, Repr

namespace Level

def severity : Level → Nat
  | idle => 0
  | concern => 1
  | alarm => 2

def ofSeverity : Nat → Level
  | 0 => idle
  | 1 => concern
  | _ => alarm

@[simp] theorem ofSeverity_severity (l : Level) : ofSeverity l.severity = l := by
  cases l <;> rfl

instance : LE Level := ⟨fun a b => a.severity ≤ b.severity⟩
instance : LT Level := ⟨fun a b => a.severity < b.severity⟩
instance (a b : Level) : Decidable (a ≤ b) :=
  inferInstanceAs (Decidable (a.severity ≤ b.severity))
instance (a b : Level) : Decidable (a < b) :=
  inferInstanceAs (Decidable (a.severity < b.severity))

theorem le_def {a b : Level} : a ≤ b ↔ a.severity ≤ b.severity := Iff.rfl
theorem lt_def {a b : Level} : a < b ↔ a.severity < b.severity := Iff.rfl

def lowered : Level → Level
  | alarm => concern
  | concern | idle => idle

@[simp] theorem severity_lowered (l : Level) : l.lowered.severity = l.severity - 1 := by
  cases l <;> rfl

end Level

inductive LedFunction where
  | off
  | blinking
  | solid
  deriving DecidableEq, Repr

def LedFunction.code : LedFunction → UInt8
  | off => 0
  | blinking => 1
  | solid => 2

inductive LedColour where
  | yellow
  | red
  deriving DecidableEq, Repr

def LedColour.code : LedColour → UInt8
  | yellow => 0
  | red => 1

structure IndicatorCommand where
  node : NodeId
  level : Level
  function : LedFunction
  colour : LedColour
  deriving DecidableEq

def IndicatorCommand.ofLevel (node : NodeId) (level : Level) : IndicatorCommand :=
  match level with
  | .idle => ⟨node, level, .off, .red⟩
  | .concern => ⟨node, level, .blinking, .yellow⟩
  | .alarm => ⟨node, level, .blinking, .red⟩

@[simp] theorem IndicatorCommand.node_ofLevel (node : NodeId) (level : Level) :
    (ofLevel node level).node = node := by
  cases level <;> rfl

end WildlifeWarning
