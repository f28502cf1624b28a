import CoprocReset.Bench.Board
import CoprocReset.Lifecycle
import CoprocReset.Proofs.Line.Faulty
import CoprocReset.Proofs.Line.Memory

/-!
# Dry runs

`dryRun` is a lifecycle on lines in memory, with its attribute on a notice board, to try things out.
Calls on its lines can be made to fail.
-/

namespace CoprocReset

/-- A coprocessor whose lines are in memory and fail as planned. -/
def dryRun (plan : List Fault) : Lifecycle (MemoryBank × CallCounts) MemoryLine Bench.Board where
  hardware := memoryHardware.faulty plan
  publisher := Bench.boardPublisher
  target := .portenta
  resetSettings := ⟨none, .activeHigh⟩
  bootSelectSettings := ⟨none, .activeHigh⟩

/-- The station of a dry run before the device is attached. -/
def dryStation : Station (MemoryBank × CallCounts) MemoryLine Bench.Board :=
  .initial (.empty, []) .empty

theorem dryRun_calm {plan : List Fault} (hplan : ∀ fault ∈ plan, fault.crashes = false) :
    (dryRun plan).hardware.Calm :=
  memoryHardware_calm.faulty hplan

end CoprocReset
