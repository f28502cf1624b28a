import CoprocReset.Bus.Interface
import CoprocReset.Line.Faulty
import CoprocReset.Machine

/-!
# Rigs

A rig is a machine on which lines are tried out, with a count of the calls on them so that faults
can be planned. While something runs on the rig, it can be disturbed from outside.
-/

namespace CoprocReset.Bench

open Files (Entry Path)

/-- A machine with a count of the calls on its lines. -/
structure Rig where
  machine : Machine
  counts : CallCounts

namespace Rig

/-- The machine as a part of the rig. -/
def machinePart : Lens Rig Machine where
  get := machine
  set machine rig := { rig with machine }

/-- The counts as a part of the rig. -/
def countsPart : Lens Rig CallCounts where
  get := counts
  set counts rig := { rig with counts }

/-- The lines of the rig, with the planned faults. -/
def hardware (backend : Backend) (gpioClass : Path) (plan : List Fault) :
    Hardware Rig MachineLine :=
  ((Machine.hardware backend gpioClass).within machinePart).withFaults plan countsPart

end Rig

/-- What can happen to a rig from outside. -/
inductive Disturbance where
  /-- A level changes by itself. -/
  | force (line : String) (level : Level)
  /-- A line cannot be acquired from now on. -/
  | refuse (line : String) (code : Files.OsCode)
  /-- A line can be acquired again. -/
  | allow (line : String)
  /-- Something is put in place of whatever is at the path. -/
  | plant (path : Path) (entry : Entry)
  /-- What is at the path is gone, with all below it. -/
  | remove (path : Path)

namespace Disturbance

/-- The machine after the disturbance. -/
def apply (disturbance : Disturbance) (machine : Machine) : Machine :=
  match disturbance with
  | .force line level => { machine with memory := machine.memory.force line level }
  | .refuse line code => { machine with memory := machine.memory.refuse line code }
  | .allow line => { machine with memory := machine.memory.allow line }
  | .plant path entry => { machine with files := machine.files.plant path.components entry }
  | .remove path => { machine with files := machine.files.prune path.components }

/-- The lines that are of interest because of the disturbance. -/
def names : Disturbance → List String
  | .force line _ => [line]
  | _ => []

/-- The disturbance as an action on a rig. -/
def strike (disturbance : Disturbance) : Action Rig Unit :=
  Action.update fun rig => { rig with machine := disturbance.apply rig.machine }

end Disturbance

/-- What comes of a step on a bench. -/
inductive Answer where
  | nothing
  | level (level : Level)
  | truth (truth : Bool)
  | number (number : Nat)
  | text (text : String)
  | wiring (name : String) (polarity : Polarity)
  /-- Whether all of a row of writes came through, and whether a look in between was unclear. -/
  | race (stored unclear : Bool)
  /-- The step makes no sense as things are. -/
  | refused (reason : String)
  /-- A caller on the bus gets an error. -/
  | replied (reply : ErrorReply)
  /-- The bus itself refuses. -/
  | declined (error : BusError)
  deriving DecidableEq, Repr

/-- The answer to a call on the bus. -/
def Answer.ofBus {α : Type} (value : α → Answer) : Except Bus.CallError α → Answer
  | .ok result => value result
  | .error (.declined error) => .declined error
  | .error (.replied reply) => .replied reply

/-- The names with one more, unless it is among them. -/
def addName (names : List String) (name : String) : List String :=
  if name ∈ names then names else names ++ [name]

end CoprocReset.Bench
