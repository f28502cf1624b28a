import CoprocReset.Files.Access
import CoprocReset.Settings.Document

/-!
# Loading the settings

Two documents are read, one that came with the system and one of the user, which is laid over the
first. One that is missing or useless counts as empty; the log says why.
-/

namespace CoprocReset

open Files (FileTree Path)

namespace Settings

/-- The overrides in a file. -/
def readFile (path : Path) : Action FileTree Overrides := do
  if (← Action.world).leadsToFile path then
    let text ← Files.read path
    Action.ofExcept (Overrides.ofDocument text)
  else
    Action.fail (.argument ("Config file not found in " ++ path.quoted))

/-- The overrides in the file of an owner, none if they cannot be had. -/
def readLayer (owner : String) (path : Path) : Action FileTree Overrides := do
  match ← (readFile path).attempt with
  | .ok overrides => return overrides
  | .error failure =>
    Action.noteWarn ("Using hardcoded values for " ++ owner ++
      " config because loading config failed: " ++ failure.message)
    return {}

/-- The settings from both files. -/
def load (vendorPath userPath : Path) : Action FileTree Settings := do
  let vendor ← readLayer "vendor" vendorPath
  let user ← readLayer "user" userPath
  return (user.merge vendor).resolve

end Settings

end CoprocReset
