import CoprocReset.Reset.Pair

/-!
# Controllers

A controller keeps the pair of lines of one coprocessor behind a lock. Everything that touches
the lines does so in a `Section`, one stay under the lock, so nobody sees the levels while a
command is half carried out. After `shutdown` the lines are gone and every request fails as not
ready; after a crash under the lock every request fails because of it.

Requests are scripts of sections and log entries. A scheduler may let other requests run between
two sections of one request, and `store` has two: the first only asks whether the lines are
there, so that a missing device is reported ahead of an unreadable command.
-/

namespace CoprocReset

/-- Who has the lines of a controller. -/
inductive Custody (L : Type) where
  /-- The controller has them. -/
  | holding (pair : LinePair L)
  /-- They were handed back. -/
  | vacant
  /-- A crash under the lock left them in an unknown condition, for good. -/
  | poisoned
  deriving DecidableEq, Repr

/-- The owner of a pair of lines, under the name of its attribute. -/
structure Controller (L : Type) where
  name : String
  custody : Custody L
  deriving DecidableEq, Repr

/-- One stay under the lock, by the type of what comes of it. -/
inductive Section (L : Type) : Type → Type where
  /-- Makes sure that the lines are there. -/
  | ready : Section L Unit
  /-- Looks at the lines. -/
  | classify : Section L LogicalState
  /-- Carries out a command. -/
  | drive (command : Command) : Section L Unit
  /-- Forces the coprocessor into reset and takes the lines away, even if it could not be
  forced. -/
  | surrender : Section L (LinePair L × Except Failure Unit)

/-- What a request consists of: stays under the lock, and entries in the log. -/
inductive ControllerCall (L : Type) : Type → Type 1 where
  | enter {α : Type} (stay : Section L α) : ControllerCall L α
  | note (severity : Severity) (text : String) : ControllerCall L Unit

/-- A script of stays under the lock of one controller. -/
abbrev ControllerScript (L α : Type) := Script Failure (ControllerCall L) α

namespace Section

variable {L α : Type}

/-- What is done with the lines. -/
def routine : Section L α → LinePair L → LineScript L α
  | .ready, _ => pure ()
  | .classify, pair => pair.classify
  | .drive command, pair => pair.drive command
  | .surrender, pair => do
    let forced ← (pair.drive .hold).attempt
    return (pair, forced)

/-- Whether the controller has the lines afterwards. -/
def keepsLines : Section L α → Bool
  | .surrender => false
  | _ => true

/-- Who has the lines after the routine has ended. -/
def custodyAfter (stay : Section L α) (pair : LinePair L) : Outcome α → Custody L
  | .crashed _ => .poisoned
  | _ => if stay.keepsLines then .holding pair else .vacant

end Section

namespace Controller

variable {W L α : Type}

/-- The controller of a pair of lines. -/
def ofPair (name : String) (pair : LinePair L) : Controller L := ⟨name, .holding pair⟩

/-- The failure of a request to a controller whose lines were handed back. -/
def notReady (controller : Controller L) : Failure :=
  .notReady (controller.name ++ " has no lines: the device is not attached")

/-- The failure of a request to a controller after a crash under its lock. -/
def lockPoisoned (controller : Controller L) : Failure :=
  .internal (controller.name ++ " line lock is poisoned")

/-- One stay under the lock. -/
def enter (hw : Hardware W L) (stay : Section L α) : Action (W × Controller L) α :=
  fun (world, controller) =>
    match controller.custody with
    | .poisoned => ⟨.failed controller.lockPoisoned, (world, controller), []⟩
    | .vacant => ⟨.failed controller.notReady, (world, controller), []⟩
    | .holding pair =>
      let run := hw.exec (stay.routine pair) world
      ⟨run.outcome,
       (run.world, { controller with custody := stay.custodyAfter pair run.outcome }), run.log⟩

/-- The action that a call stands for. -/
def perform (hw : Hardware W L) : ControllerCall L α → Action (W × Controller L) α
  | .enter stay => enter hw stay
  | .note severity text => Action.note severity text

/-- The script carried out without a pause. -/
def exec (hw : Hardware W L) (script : ControllerScript L α) : Action (W × Controller L) α :=
  script.exec (perform hw)

/-! ## Requests -/

/-- One stay under the lock as a script. -/
def inside (stay : Section L α) : ControllerScript L α := Script.ask (.enter stay)

/-- Makes an entry in the log. -/
def note (severity : Severity) (text : String) : ControllerScript L Unit :=
  Script.ask (.note severity text)

/-- The state of the coprocessor. -/
def read : ControllerScript L LogicalState := inside .classify

/-- Carries out a command. -/
def write (name : String) (command : Command) : ControllerScript L Unit := do
  inside (.drive command)
  note .info (name ++ " set to " ++ command.target.name)

/-- The attribute's content: the code of the state on a line of its own. -/
def content : ControllerScript L String := do
  let state ← read
  return toString state.code ++ "\n"

/-- Carries out what is written to the attribute. Says how many bytes of it were used, which is
all of them. -/
def store (name : String) (input : String) : ControllerScript L Nat := do
  inside .ready
  match Command.parse input with
  | .error failure =>
    note .error (name ++ ": " ++ failure.message)
    Script.fail failure
  | .ok command =>
    write name command
    return input.utf8ByteSize

/-- Forces the coprocessor into reset and hands the lines back to be released. -/
def shutdown (name : String) : ControllerScript L (LinePair L) := do
  let (pair, forced) ← inside .surrender
  if let .error failure := forced then
    note .error ("Failed to force " ++ name ++ " into reset: " ++ failure.message)
  note .info (name ++ " is now under reset and cannot be used")
  return pair

end Controller

/-- What someone who knows a controller but does not own it can ask of it, by the type of the
answer. -/
inductive Request : Type → Type where
  | read : Request LogicalState
  | content : Request String
  | write (command : Command) : Request Unit
  | store (input : String) : Request Nat

/-- The script of a request to the controller of that name. -/
def Request.script {L α : Type} (name : String) : Request α → ControllerScript L α
  | .read => Controller.read
  | .content => Controller.content
  | .write command => Controller.write name command
  | .store input => Controller.store name input

end CoprocReset
