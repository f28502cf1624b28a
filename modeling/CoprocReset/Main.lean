import CoprocReset.Bench.Served

/-!
# The client on its own

Without a bus to connect to, the client talks to a device with lines in memory that lives as long
as the program: it shows what each command would do.
-/

open CoprocReset
open CoprocReset.Bench (ServedDevice)

/-- The device that is there while the program runs. -/
def CoprocReset.dryRunDevice : ServedDevice :=
  ⟨Client.defaultAttribute, .high, .low, false⟩

/-- Runs a client against the device. -/
def main (arguments : List String) : IO UInt32 := do
  let action := do
    dryRunDevice.setUp
    Client.run ServedDevice.hardware arguments
  let run := action ServedDevice.initialStation
  for entry in run.log do
    IO.eprintln entry.line
  match run.outcome with
  | .done ending =>
    if let some entry := ending.said then IO.eprintln entry.line
    IO.print ending.output
    return UInt32.ofNat ending.exitCode
  | .failed failure =>
    IO.eprintln failure.message
    return 1
  | .crashed message =>
    IO.eprintln message
    return 1
