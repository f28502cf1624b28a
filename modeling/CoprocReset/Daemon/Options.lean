import CoprocReset.Client.Arguments
import CoprocReset.Files.Path

/-!
# The arguments of a daemon

`[--config PATH]`

Asking for help or for the version ends the daemon well as soon as the request is read; anything
else that is not understood ends it badly.
-/

namespace CoprocReset.Daemon

open Client (option? values?)
open Files (Path)

/-- What the arguments ask for. -/
inductive Options where
  /-- To run with the user's settings from a path. -/
  | serve (config : Path)
  /-- To be told about the daemon. -/
  | inform
  deriving DecidableEq, Repr

/-- Where the settings of the user are unless told otherwise. -/
def userConfig : Path := ⟨"/etc/x8h7rstd/config.toml"⟩

/-- Where the settings are that come with the system. -/
def vendorConfig : Path := ⟨"/usr/lib/x8h7rstd/config.toml"⟩

/-- Whether an argument asks for help or for the version. -/
def asksForInformation (argument : String) : Bool :=
  argument = "--help" || argument = "--version" ||
    (match argument.toList with
    | '-' :: letter :: _ => letter = 'h' || letter = 'V'
    | _ => false)

/-- What the arguments after all options of their own ask for. -/
def remaining? (config : Path) : List String → Option Options
  | [] => some (.serve config)
  | argument :: rest =>
    if asksForInformation argument then some .inform
    else if values? (argument :: rest) = some [] then some (.serve config)
    else none

/-- What the arguments ask for. -/
def options? (arguments : List String) : Option Options :=
  match option? "--config" arguments with
  | none => remaining? userConfig arguments
  | some (path, rest) => if path = "" then none else remaining? ⟨path⟩ rest

end CoprocReset.Daemon
