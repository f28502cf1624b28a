import CoprocReset.Bench.Rig
import CoprocReset.Client.Run

/-!
# A bench for clients

On this bench a bus serves the attribute of one device with lines in memory, for clients to talk
to. The device may have been shut down before the first client comes.
-/

namespace CoprocReset.Bench

/-- The station of the device. -/
abbrev ServedStation := Station Machine MachineLine Bus.ObjectTable

/-- The device that is served. -/
structure ServedDevice where
  attributeName : String
  resetLevel : Level
  bootSelectLevel : Level
  isShutDown : Bool

namespace ServedDevice

/-- The lines of the device. -/
def hardware : Hardware Machine MachineLine := Machine.hardware .memory ⟨""⟩

/-- The station before the device is there. -/
def initialStation : ServedStation := .initial ⟨.empty, .empty⟩ []

/-- A line of the device. -/
def line (name : String) (initial : Level) : LineRequest :=
  LineSettings.request ⟨none, .activeHigh⟩ name initial

/-- Brings the device up as it is meant to be. -/
def setUp (device : ServedDevice) : Action ServedStation Unit := do
  let lines := hardware.within Station.worldPart
  let reset ← lines.acquire (line Target.portenta.resetLine device.resetLevel)
  let bootSelect ← lines.acquire (line Target.portenta.bootSelectLine device.bootSelectLevel)
  let handle ← Station.makeController device.attributeName ⟨reset, bootSelect⟩
  (Action.update fun table : Bus.ObjectTable =>
    (table.serve (Bus.pathOf device.attributeName) (.station handle)).2).on Station.publisherPart
  if device.isShutDown then
    let pair ← Station.shutdown hardware handle
    pair.release lines

end ServedDevice

end CoprocReset.Bench
