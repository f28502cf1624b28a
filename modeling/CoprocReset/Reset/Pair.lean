import CoprocReset.Line.Hardware
import CoprocReset.Reset.Command

/-!
# The pair of lines

A coprocessor is controlled by two lines that belong together. A command drives the reset line
first and the boot-select line only after that, so that between the two calls the levels stand
for no clear state; a look reads them in the same order. Releasing a pair releases both lines,
whatever the first release comes to.
-/

namespace CoprocReset

/-- The two lines of one coprocessor, as their holder keeps them. -/
structure LinePair (L : Type) where
  reset : L
  bootSelect : L
  deriving DecidableEq, Repr

namespace LinePair

variable {W L : Type}

/-- Drives both lines to the levels of a command. -/
def drive (pair : LinePair L) (command : Command) : LineScript L Unit := do
  Script.ask (.set pair.reset command.resetLevel)
  Script.ask (.set pair.bootSelect command.bootSelectLevel)

/-- The state that the levels of the lines stand for. -/
def classify (pair : LinePair L) : LineScript L LogicalState := do
  let reset ← Script.ask (.get pair.reset)
  let bootSelect ← Script.ask (.get pair.bootSelect)
  return .classify reset bootSelect

/-- Releases both lines. If both releases fail, the failure of the reset line is handed on, and
that of the boot-select line is in the log. -/
def release (hw : Hardware W L) (pair : LinePair L) : Action W Unit := do
  let reset ← (hw.release pair.reset).attempt
  let bootSelect ← (hw.release pair.bootSelect).attempt
  if let .error failure := bootSelect then
    Action.noteError ("Failed to release boot-select line: " ++ failure.message)
  Action.ofExcept (reset >>= fun () => bootSelect)

end LinePair

end CoprocReset
