import CoprocReset.Line.Memory
import CoprocReset.Line.Sysfs
import CoprocReset.Settings.Basic

/-!
# Machines

A machine has a file tree and a bank of lines in memory, and hands out lines of the backend that
the settings name. A call on a line goes to where the line came from.
-/

namespace CoprocReset

open Files (FileTree Path)

/-- A file tree and a bank of lines. -/
structure Machine where
  files : FileTree
  memory : MemoryBank

/-- What the holder of a line of a machine keeps. -/
inductive MachineLine where
  | sysfs (line : SysfsLine)
  | memory (line : MemoryLine)
  deriving DecidableEq, Repr

namespace Machine

/-- The file tree as a part of the machine. -/
def filesPart : Lens Machine FileTree where
  get := files
  set files machine := { machine with files }

/-- The bank of lines as a part of the machine. -/
def memoryPart : Lens Machine MemoryBank where
  get := memory
  set memory machine := { machine with memory }

/-- The lines behind files, as seen from the machine. -/
def sysfsLines (gpioClass : Path) : Hardware Machine SysfsLine :=
  (sysfsHardware gpioClass).within filesPart

/-- The lines in memory, as seen from the machine. -/
def memoryLines : Hardware Machine MemoryLine := memoryHardware.within memoryPart

/-- Hands out a line of the backend. -/
def acquire (backend : Backend) (gpioClass : Path) (request : LineRequest) :
    Action Machine MachineLine :=
  match backend with
  | .sysfs => do return .sysfs (← (sysfsLines gpioClass).acquire request)
  | .memory => do return .memory (← memoryLines.acquire request)

/-- The lines of the machine as hardware. -/
def hardware (backend : Backend) (gpioClass : Path) : Hardware Machine MachineLine where
  acquire := acquire backend gpioClass
  get
    | .sysfs line => (sysfsLines gpioClass).get line
    | .memory line => memoryLines.get line
  set
    | .sysfs line, level => (sysfsLines gpioClass).set line level
    | .memory line, level => memoryLines.set line level
  release
    | .sysfs line => (sysfsLines gpioClass).release line
    | .memory line => memoryLines.release line
  wait _ := pure ()
  name
    | .sysfs line => line.name
    | .memory line => line.name
  polarity
    | .sysfs line => line.polarity
    | .memory line => line.polarity

end Machine

end CoprocReset
