import CoprocReset.Bus.Interface
import CoprocReset.Bus.Path
import CoprocReset.Client.Report
import CoprocReset.Reset.Command
import CoprocReset.Script

/-!
# Dialogues of a client

Each command of a client is a script of calls to one attribute: look at it, or write to it and
look at it afterwards. What may be written is for the daemon to say; the client passes on every
text.

The client finds the attribute by a path that it makes from the name itself, without a look at what
the daemon publishes. Both make the same path (`objectPath_eq_pathOf`).
-/

namespace CoprocReset.Client

/-! ## Where a client calls -/

/-- The path below which a client looks for attributes. -/
def objectRoot : String := "/org/arduino/x8h7rstd"

/-- The path at which a client looks for the attribute of a name. -/
def objectPath (attributeName : String) : String := objectRoot ++ "/" ++ attributeName

/-- The path that the calls of a client go to, if calls may go there. -/
def requestPath (attributeName : String) : Except BusError String :=
  Bus.checkPath (objectPath attributeName)

/-- A client looks for an attribute where the daemon has it. -/
theorem objectPath_eq_pathOf (attributeName : String) :
    objectPath attributeName = Bus.pathOf attributeName := rfl

/-! ## What a client says -/

/-- What a client does, by the type of the answer. -/
inductive ClientCall : Type → Type where
  | read : ClientCall String
  | write (data : String) : ClientCall Nat
  /-- Lets a number of milliseconds pass. -/
  | pause (ms : Nat) : ClientCall Unit

/-- A script of calls to one attribute. -/
abbrev Dialogue (α : Type) := Script Bus.CallError ClientCall α

/-- Sends a text to the attribute. -/
def send (data : String) : Dialogue Unit := do
  let _consumed ← Script.ask (.write data)

/-- A report on the attribute as it is now. -/
def look (attributeName : String) : Dialogue String := do
  let content ← Script.ask .read
  return report attributeName content

/-- What a client can be told to do. -/
inductive Errand where
  /-- Reports the state. -/
  | status
  /-- Writes a text and reports the state after it. -/
  | write (data : String)
  /-- Holds the coprocessor in reset for a number of milliseconds and then lets it run. -/
  | cycle (holdMs : Nat)
  deriving DecidableEq, Repr

namespace Errand

/-- The text that is written for a command. -/
def textOf : Command → String
  | .hold => "0"
  | .release => "1"

/-- The calls of an errand. -/
def calls (attributeName : String) : Errand → Dialogue String
  | .status => look attributeName
  | .write data => do
    send data
    look attributeName
  | .cycle holdMs => do
    send (textOf .hold)
    Script.ask (.pause holdMs)
    send (textOf .release)
    look attributeName

/-- The dialogue of an errand. The name of the attribute has to lead to an object path. -/
def dialogue (attributeName : String) (errand : Errand) : Dialogue String :=
  match requestPath attributeName with
  | .ok _ => errand.calls attributeName
  | .error error => Script.fail (.declined error)

/-- What is written is the command that it is written for. -/
theorem parse_textOf (command : Command) : Command.parse (textOf command) = .ok command := by
  cases command <;> rfl

end Errand

end CoprocReset.Client
