import CoprocReset.Line.Level

/-!
# The state of the coprocessor

The levels of the two lines tell what the coprocessor does: with the reset line low and the
boot-select line high it is held in reset, the other way round it runs. Any other pair of levels
means neither (`classify_eq_indeterminate_iff`). Looking at the lines repairs nothing.
-/

namespace CoprocReset

/-- What the lines say about the coprocessor. -/
inductive LogicalState where
  | heldInReset
  | running
  | indeterminate
  deriving DecidableEq, Repr

namespace LogicalState

/-- The number under which the state is reported. -/
def code : LogicalState → Nat
  | .heldInReset => 0
  | .running => 1
  | .indeterminate => 2

/-- The state in words. -/
def name : LogicalState → String
  | .heldInReset => "held-in-reset"
  | .running => "running"
  | .indeterminate => "indeterminate"

/-- The state that the levels of the reset line and of the boot-select line stand for. -/
def classify : Level → Level → LogicalState
  | .low, .high => .heldInReset
  | .high, .low => .running
  | .low, .low => .indeterminate
  | .high, .high => .indeterminate

/-- The state is unclear as long as both lines are at one level. -/
theorem classify_eq_indeterminate_iff (reset bootSelect : Level) :
    classify reset bootSelect = .indeterminate ↔ reset = bootSelect := by
  cases reset <;> cases bootSelect <;> simp [classify]

end LogicalState

end CoprocReset
