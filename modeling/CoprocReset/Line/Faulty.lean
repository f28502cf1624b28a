import CoprocReset.Assoc
import CoprocReset.Line.Hardware

/-!
# Faults on demand

`Hardware.withFaults` makes chosen calls on chosen lines fail or crash. It counts the calls of
each sort on the lines of each name; a call that a fault is planned for does not reach the line.
So a release that fails or crashes leaves the line held by nobody. Without a plan nothing but the
count is added.
-/

namespace CoprocReset

/-- The sorts of calls on a line that can be made to fail. -/
inductive CallSort where
  | get
  | set
  | release
  deriving DecidableEq, Repr

/-- The sort of a call in words. -/
def CallSort.name : CallSort → String
  | .get => "get"
  | .set => "set"
  | .release => "release"

/-- A fault: which call of which sort on the lines of which name comes to grief, and how. -/
structure Fault where
  line : String
  sort : CallSort
  /-- The number of the call, counted from one; zero stands for every call. -/
  number : Nat
  crashes : Bool
  deriving DecidableEq, Repr

/-- How many calls of each sort there were on the lines of each name. -/
abbrev CallCounts := List ((String × CallSort) × Nat)

/-- The counts after one more call, and the number of that call. -/
def CallCounts.next (counts : CallCounts) (line : String) (sort : CallSort) : Nat × CallCounts :=
  let number := (counts.lookup (line, sort)).getD 0 + 1
  (number, Assoc.insert (line, sort) number counts)

namespace Fault

/-- Whether the fault is planned for the call. -/
def strikes (fault : Fault) (line : String) (sort : CallSort) (number : Nat) : Bool :=
  fault.line = line ∧ fault.sort = sort ∧ (fault.number = 0 ∨ fault.number = number)

/-- How the call ends that the fault is planned for. -/
def outcome {α : Type} (fault : Fault) : Outcome α :=
  if fault.crashes then
    .crashed ("injected " ++ fault.sort.name ++ " panic on " ++ fault.line)
  else
    .failed (.internal ("injected " ++ fault.sort.name ++ " failure on " ++ fault.line))

/-- The call, unless the plan has a fault for it. The first fault that fits counts. -/
def guarding {W α : Type} (plan : List Fault) (counts : Lens W CallCounts) (line : String)
    (sort : CallSort) (call : Action W α) : Action W α := do
  let (number, later) := (counts.get (← Action.world)).next line sort
  Action.update (counts.set later)
  match plan.find? fun fault => fault.strikes line sort number with
  | some fault => Action.ofOutcome fault.outcome
  | none => call

end Fault

/-- The hardware with the planned faults. -/
def Hardware.withFaults {W L : Type} (hw : Hardware W L) (plan : List Fault)
    (counts : Lens W CallCounts) : Hardware W L :=
  { hw with
    get := fun line => Fault.guarding plan counts (hw.name line) .get (hw.get line)
    set := fun line level =>
      Fault.guarding plan counts (hw.name line) .set (hw.set line level)
    release := fun line =>
      Fault.guarding plan counts (hw.name line) .release (hw.release line) }

end CoprocReset
