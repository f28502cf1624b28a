import CoprocReset.Files.Path
import CoprocReset.Line.Hardware
import CoprocReset.Target.Registry

/-!
# Settings

The settings say which device is attached and where its lines are. A document overrides any of the
fields. It has them in sections, some of them within others, each of which may be missing.
`Overrides.merge` lays one document over another, field by field at every depth, and
`Overrides.resolve` fills in what neither says.
-/

namespace CoprocReset

open Files (Path)

/-- What is behind the lines. -/
inductive Backend where
  | sysfs
  | memory
  deriving DecidableEq, Repr

/-- The backend in words. -/
def Backend.name : Backend → String
  | .sysfs => "Sysfs"
  | .memory => "Memory"

/-- Which device is attached and where its lines are. -/
structure Settings where
  compatible : String
  backend : Backend
  /-- The directory of the GPIO class. -/
  gpioClass : Path
  reset : LineSettings
  bootSelect : LineSettings
  deriving DecidableEq, Repr

/-- What a document says about a line. -/
structure LineSection where
  gpio : Option Nat := none
  activeLow : Option Bool := none
  deriving DecidableEq, Repr

/-- What a document says about the device. -/
structure DeviceSection where
  compatible : Option String := none
  backend : Option Backend := none
  deriving DecidableEq, Repr

/-- What a document says about directories. -/
structure PathsSection where
  gpioClass : Option String := none
  deriving DecidableEq, Repr

/-- What a document says about the lines. -/
structure LinesSection where
  reset : Option LineSection := none
  bootSelect : Option LineSection := none
  deriving DecidableEq, Repr

/-- What a document says. -/
structure Overrides where
  device : Option DeviceSection := none
  paths : Option PathsSection := none
  lines : Option LinesSection := none
  deriving DecidableEq, Repr

/-- What is said first about the line, and then second where the first says nothing. -/
def LineSection.merge (first second : LineSection) : LineSection where
  gpio := first.gpio <|> second.gpio
  activeLow := first.activeLow <|> second.activeLow

/-- The settings of the line. A line without a word about it has no number and is active high. -/
def LineSection.resolve (line : LineSection) : LineSettings where
  gpio := line.gpio
  polarity := .ofActiveLow (line.activeLow.getD false)

/-- What is said first about the device, and then second. -/
def DeviceSection.merge (first second : DeviceSection) : DeviceSection where
  compatible := first.compatible <|> second.compatible
  backend := first.backend <|> second.backend

/-- What is said first about directories, and then second. -/
def PathsSection.merge (first second : PathsSection) : PathsSection where
  gpioClass := first.gpioClass <|> second.gpioClass

/-- What is said first about the lines, and then second. -/
def LinesSection.merge (first second : LinesSection) : LinesSection where
  reset := first.reset.merge LineSection.merge second.reset
  bootSelect := first.bootSelect.merge LineSection.merge second.bootSelect

namespace Overrides

/-- What is said first, and then second where the first says nothing. -/
def merge (first second : Overrides) : Overrides where
  device := first.device.merge DeviceSection.merge second.device
  paths := first.paths.merge PathsSection.merge second.paths
  lines := first.lines.merge LinesSection.merge second.lines

/-- The directory of the GPIO class if no document names one. -/
def defaultGpioClass : String := "/sys/class/gpio/"

/-- The settings with everything filled in. -/
def resolve (overrides : Overrides) : Settings :=
  let device := overrides.device.getD {}
  let paths := overrides.paths.getD {}
  let lines := overrides.lines.getD {}
  { compatible := device.compatible.getD Target.portentaCompatible
    backend := device.backend.getD .sysfs
    gpioClass := ⟨paths.gpioClass.getD defaultGpioClass⟩
    reset := (lines.reset.getD {}).resolve
    bootSelect := (lines.bootSelect.getD {}).resolve }

end Overrides

namespace Settings

/-- The settings without any document. -/
def standard : Settings := Overrides.resolve {}

/-- Whether the settings come to the same as those without any document. -/
def isStandard (settings : Settings) : Bool :=
  { settings with gpioClass := standard.gpioClass } = standard ∧
    settings.gpioClass.agrees standard.gpioClass

end Settings

end CoprocReset
