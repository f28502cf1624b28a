import CoprocReset.Reset.Pair

/-!
# Starting up

Before anyone can see the attribute, the coprocessor is held in reset, given time to settle with
its boot source latched, and released. The first call that fails ends the sequence.
-/

namespace CoprocReset

/-- How long the coprocessor has to be held in reset, in milliseconds: it needs the least time to
reset cleanly, and waiting beyond the greatest only costs time. -/
structure SettleWindow where
  least : Nat
  greatest : Nat
  deriving DecidableEq, Repr

variable {W L : Type}

/-- Lets the least time of the window pass. Says how long it waited. -/
def SettleWindow.wait (hw : Hardware W L) (window : SettleWindow) : Action W Nat := do
  hw.wait window.least
  return window.least

/-- Resets the coprocessor and lets it run. -/
def LinePair.startUp (hw : Hardware W L) (pair : LinePair L) (window : SettleWindow) :
    Action W Unit := do
  Action.noteInfo "Reset sequence started"
  Action.noteInfo " (0) reset 0, boot-select 1"
  hw.exec (pair.drive .hold)
  Action.noteInfo (" (1) wait ~" ++ toString window.least ++ " ms")
  let _waited ← window.wait hw
  Action.noteInfo " (2) reset 1, boot-select 0"
  hw.exec (pair.drive .release)
  Action.noteInfo "Reset sequence finished, device can now be used"

end CoprocReset
