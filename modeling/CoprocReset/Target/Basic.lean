import CoprocReset.Reset.Startup

/-!
# Targets

A target describes one kind of wiring: the names of the two lines, the name of the attribute and
the time that the coprocessor needs to settle.
-/

namespace CoprocReset

/-- One kind of wiring. -/
structure Target where
  attributeName : String
  resetLine : String
  bootSelectLine : String
  settle : SettleWindow
  deriving DecidableEq, Repr

namespace Target

/-- The H7 of the Portenta X8: NRST, which holds it in reset while it is low, and BOOT0, which is
sampled when it is released. -/
def portenta : Target where
  attributeName := "x8h7_reset"
  resetLine := "reset-line"
  bootSelectLine := "boot-select-line"
  settle := ⟨50, 51⟩

/-- What the H7 of the Portenta X8 is compatible with. -/
def portentaCompatible : String := "portenta,x8h7rst"

end Target

end CoprocReset
