import CoprocReset.Failure
import CoprocReset.Reset.State
import CoprocReset.Text.Blank
import CoprocReset.Text.Decimal

/-!
# Commands

A command asks for one of the two clear states, and has a pair of levels that brings it about
(`classify_levels`). What is written to an attribute is a command if, without the blanks around
it, it is an integer of 64 bits that is zero or one.
-/

namespace CoprocReset

/-- A request to bring the coprocessor into one of its two clear states. -/
inductive Command where
  | hold
  | release
  deriving DecidableEq, Repr

/-- Why a text is no command. -/
inductive CommandFault where
  | notInteger (input : String) (fault : Text.IntegerFault)
  | noState (value : Int)
  deriving DecidableEq, Repr

/-- The fault in words. -/
def CommandFault.message : CommandFault → String
  | .notInteger input fault =>
    "Cannot parse " ++ Text.quote input ++ " as an integer: " ++ fault.message ++
      " (expected 0 or 1)"
  | .noState value =>
    "Invalid value for reset state: " ++ toString value ++ " (expected 0 or 1)"

namespace Command

/-- The level for the reset line. -/
def resetLevel : Command → Level
  | .hold => .low
  | .release => .high

/-- The level for the boot-select line. -/
def bootSelectLevel : Command → Level
  | .hold => .high
  | .release => .low

/-- The state that the command asks for. -/
def target : Command → LogicalState
  | .hold => .heldInReset
  | .release => .running

/-- The command that an integer stands for. -/
def ofInt? (value : Int) : Option Command :=
  if value = 0 then some .hold else if value = 1 then some .release else none

/-- The command that a text stands for. -/
def read (input : String) : Except CommandFault Command :=
  match Text.readInteger .signed64 (Text.trimChars input.toList) with
  | .error fault => .error (.notInteger input fault)
  | .ok value =>
    match ofInt? value with
    | some command => .ok command
    | none => .error (.noState value)

/-- The command that is written to an attribute. -/
def parse (input : String) : Except Failure Command :=
  (read input).mapError fun fault => .invalidCommand fault.message

/-- A command asks for the state that its levels stand for. -/
theorem classify_levels (command : Command) :
    LogicalState.classify command.resetLevel command.bootSelectLevel = command.target := by
  cases command <;> rfl

end Command

end CoprocReset
