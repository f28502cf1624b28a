import CoprocReset.Files.Access
import CoprocReset.Line.Hardware
import CoprocReset.Text.Blank

/-!
# Lines behind files

A GPIO class is a directory with a file `export`, a file `unexport` and, for each line that is
exported, a directory `gpio<N>` with the files `active_low`, `direction` and `value`.

A line is acquired by exporting it, unless it is exported already, and then by writing its
polarity to `active_low` and its first level on the pin to `direction`. If one of the two is
refused, an export made for the purpose is taken back. From then on the logical level is read
from and written to `value`; the polarity is applied behind the file. Releasing a line writes its
number to `unexport`.
-/

namespace CoprocReset

open Files (FileTree Path)

/-- What the holder of a line behind files keeps. -/
structure SysfsLine where
  name : String
  gpio : Nat
  polarity : Polarity
  value : Path
  unexport : Path
  deriving DecidableEq, Repr

namespace SysfsLine

/-- The directory of an exported line within the class. -/
def directory (gpioClass : Path) (gpio : Nat) : Path := gpioClass.join ("gpio" ++ toString gpio)

/-- What is written to `direction` to make the line an output with a level on the pin. -/
def directionWord : Level → String
  | .low => "low"
  | .high => "high"

/-- What is written to `active_low`. -/
def polarityDigit (polarity : Polarity) : String := if polarity.isActiveLow then "1" else "0"

/-- Sets the polarity and the first level of an exported line. -/
def configure (directory : Path) (request : LineRequest) : Action FileTree Unit := do
  Files.write (directory.join "active_low") false (polarityDigit request.polarity)
  Files.write (directory.join "direction") false
    (directionWord (request.polarity.toPhysical request.initial))

/-- Logs why a line cannot be acquired, and fails with the code of the cause. -/
def giveUp {α : Type} (name : String) (cause : Failure) : Action FileTree α := do
  Action.noteError ("Failed to acquire " ++ name ++ ": " ++ cause.message)
  Action.fail (.acquisition name (cause.osCode.getD .ioError))

/-- Exports the line, unless it is exported already. Says whether it had to be. -/
def ensureExported (gpioClass : Path) (name : String) (gpio : Nat) : Action FileTree Bool := do
  if (← Action.world).leads (directory gpioClass gpio) then
    Action.noteWarn
      ("gpio" ++ toString gpio ++ " was already exported, taking it over for " ++ name)
    return false
  else
    match ← (Files.write (gpioClass.join "export") false (toString gpio)).attempt with
    | .ok () => return true
    | .error cause => giveUp name cause

/-- Takes an export back after the line could not be configured. -/
def takeBack (gpioClass : Path) (gpio : Nat) : Action FileTree Unit := do
  match ← (Files.write (gpioClass.join "unexport") false (toString gpio)).attempt with
  | .ok () => return ()
  | .error cause =>
    Action.noteError
      ("Failed to unexport gpio" ++ toString gpio ++ " after a failed acquisition: " ++
        cause.message)

/-- Hands out the line of the requested number. -/
def acquire (gpioClass : Path) (request : LineRequest) : Action FileTree SysfsLine := do
  match request.gpio with
  | none =>
    Action.noteError ("No gpio number configured for " ++ request.name)
    Action.fail (.acquisition request.name .invalid)
  | some gpio =>
    let exported ← ensureExported gpioClass request.name gpio
    match ← (configure (directory gpioClass gpio) request).attempt with
    | .error cause =>
      if exported then takeBack gpioClass gpio
      giveUp request.name cause
    | .ok () =>
      return ⟨request.name, gpio, request.polarity, (directory gpioClass gpio).join "value",
        gpioClass.join "unexport"⟩

/-- The level that the text of a `value` file stands for. -/
def readLevel (text : String) : Option Level :=
  if Text.trim text = "0" then some .low
  else if Text.trim text = "1" then some .high
  else none

/-- The level of the line. -/
def get (line : SysfsLine) : Action FileTree Level := do
  let text ← Files.read line.value
  match readLevel text with
  | some level => return level
  | none =>
    Action.fail (.internal
      (line.value.quoted ++ " holds unexpected value " ++ Text.quote (Text.trim text)))

/-- Sets the level of the line. -/
def set (line : SysfsLine) (level : Level) : Action FileTree Unit :=
  Files.write line.value false level.digit

/-- Gives the line back. -/
def release (line : SysfsLine) : Action FileTree Unit :=
  Files.write line.unexport false (toString line.gpio)

end SysfsLine

/-- The lines of a GPIO class as hardware. -/
def sysfsHardware (gpioClass : Path) : Hardware FileTree SysfsLine where
  acquire := SysfsLine.acquire gpioClass
  get := SysfsLine.get
  set := SysfsLine.set
  release := SysfsLine.release
  wait _ := pure ()
  name := SysfsLine.name
  polarity := SysfsLine.polarity

end CoprocReset
