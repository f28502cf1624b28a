import CoprocReset.Bus.Objects
import CoprocReset.Daemon.Options
import CoprocReset.Lifecycle
import CoprocReset.Machine
import CoprocReset.Settings.Load

/-!
# The daemon's service

Coming up, a daemon loads its settings, looks its target up, claims its name on the bus and
attaches the device; only then does it call itself started. Going down it detaches the device.
A mishap on the way is its last word.
-/

namespace CoprocReset.Daemon

open Files (Path)

/-- The station of a daemon. -/
abbrev ServiceStation := Station Machine MachineLine Bus.ObjectTable

/-- How a device is attached on the bus. -/
abbrev ServiceLifecycle := Lifecycle Machine MachineLine Bus.ObjectTable

/-- Why a daemon ends early. -/
inductive Mishap where
  /-- The bus does not give it its name. -/
  | refused (error : BusError)
  | failed (failure : Failure)
  /-- A crash that nobody holds back. -/
  | crashed (message : String)
  deriving DecidableEq, Repr

/-- The last word of a daemon. -/
def Mishap.lastWord : Mishap → String
  | .refused error => "Error: " ++ error.parts
  | .failed failure => "Error: " ++ failure.parts
  | .crashed message => message

/-- The mishap that an outcome is, if it is one. -/
def Mishap.ofOutcome? {α : Type} : Outcome α → Option Mishap
  | .done _ => none
  | .failed failure => some (.failed failure)
  | .crashed message => some (.crashed message)

/-- What the bus answers to the claim of a name. -/
inductive NameReply where
  | granted
  | taken
  deriving DecidableEq, Repr

/-- The settings, and the target that they name. -/
def prepare (userConfig : Path) : Action Machine (Settings × Target) := do
  let settings ← (Settings.load vendorConfig userConfig).on Machine.filesPart
  let target ← Action.ofExcept (Registry.builtin.lookup settings.compatible)
  return (settings, target)

/-- How the device of the settings is attached. -/
def lifecycle (settings : Settings) (target : Target) : ServiceLifecycle where
  hardware := Machine.hardware settings.backend settings.gpioClass
  publisher := Bus.busPublisher
  target := target
  resetSettings := settings.reset
  bootSelectSettings := settings.bootSelect

/-- Attaches the device and begins to serve. -/
def enter (settings : Settings) (target : Target) : Action ServiceStation Unit := do
  if settings.backend = .memory then
    Action.noteInfo "Using in-memory lines: no hardware will be driven"
  let _ ← (lifecycle settings target).attach
  Action.noteInfo ("Started " ++ Bus.serviceName ++ " dbus service")

/-- What makes a daemon end. -/
inductive Signal where
  | interrupt
  | terminate
  deriving DecidableEq, Repr

/-- The signal in words. -/
def Signal.name : Signal → String
  | .interrupt => "SIGINT"
  | .terminate => "SIGTERM"

/-- Stops serving and detaches the device. -/
def leave (settings : Settings) (target : Target) (signal : Signal) :
    Action ServiceStation Unit := do
  Action.noteInfo (signal.name ++ " received")
  (lifecycle settings target).detach

end CoprocReset.Daemon
