/-!
# Levels

A control line has one of two logical levels. What is seen on the pin depends on the polarity of
the line: a line that is active low shows the opposite level (`toPhysical_toPhysical`).
-/

namespace CoprocReset

/-- The logical level of a line, after its polarity has been applied. -/
inductive Level where
  | low
  | high
  deriving DecidableEq, Repr, Inhabited

/-- The level as a number. -/
def Level.number : Level → Nat
  | .low => 0
  | .high => 1

/-- The digit that stands for the level. -/
def Level.digit : Level → String
  | .low => "0"
  | .high => "1"

/-- The other level. -/
def Level.inverse : Level → Level
  | .low => .high
  | .high => .low

/-- How a line is wired. -/
inductive Polarity where
  | activeHigh
  | activeLow
  deriving DecidableEq, Repr, Inhabited

namespace Polarity

/-- The polarity of a line of which it is said whether it is active low. -/
def ofActiveLow (activeLow : Bool) : Polarity := if activeLow then .activeLow else .activeHigh

/-- Whether the line is active low. -/
def isActiveLow : Polarity → Bool
  | .activeHigh => false
  | .activeLow => true

/-- The name of the polarity. -/
def name : Polarity → String
  | .activeHigh => "ActiveHigh"
  | .activeLow => "ActiveLow"

/-- The level on the pin for a logical level. -/
def toPhysical : Polarity → Level → Level
  | .activeHigh, level => level
  | .activeLow, level => level.inverse

theorem toPhysical_toPhysical (polarity : Polarity) (level : Level) :
    polarity.toPhysical (polarity.toPhysical level) = level := by
  cases polarity <;> cases level <;> rfl

end Polarity

end CoprocReset
