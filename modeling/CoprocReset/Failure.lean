import CoprocReset.Files.OsError
import CoprocReset.Files.Path

/-!
# Failures

Everything that can go wrong is one value of `Failure`. `Failure.message` is the failure in
words, `Failure.osCode` the code of the operating system behind it, `Failure.parts` its parts as
the daemon's last words show them, and `Failure.reply` what a caller on the bus is told.

A caller is told one of three things (`reply_name`): that its arguments were wrong, that a file
could not be read or written, or that the call failed. The text is always the message
(`reply_text`).
-/

namespace CoprocReset

open Files (IoCause OsCode Path)

/-- What the bus itself refuses. -/
inductive BusError where
  | nameTaken
  | interfaceNotFound
  /-- A name leads to no object path. -/
  | invalidPath
  | other (text : String)
  deriving DecidableEq, Repr

/-- The refusal in words. -/
def BusError.message : BusError → String
  | .nameTaken => "name already taken on the bus"
  | .interfaceNotFound => "Interface not found"
  | .invalidPath => "Invalid object path"
  | .other text => text

/-- The parts of the refusal. -/
def BusError.parts : BusError → String
  | .nameTaken => "NameTaken"
  | .interfaceNotFound => "InterfaceNotFound"
  | .invalidPath => "Variant(InvalidObjectPath)"
  | .other text => "Failure(" ++ Text.quote text ++ ")"

/-- An error as a caller on the bus receives it: its name and perhaps a text. -/
structure ErrorReply where
  name : String
  text : Option String
  deriving DecidableEq, Repr

/-- What went wrong. -/
inductive Failure where
  /-- A line could not be obtained. -/
  | acquisition (line : String) (code : OsCode)
  /-- The text written to an attribute is no command. -/
  | invalidCommand (text : String)
  /-- The device is not attached. -/
  | notReady (text : String)
  | argument (text : String)
  /-- The device is in the wrong phase to be attached or detached. -/
  | lifecycle (text : String)
  | ioRead (file : Path) (cause : IoCause)
  | ioWrite (file : Path) (data : String) (cause : IoCause)
  /-- The text is no configuration document. -/
  | badDocument (text : String)
  | bus (error : BusError)
  | internal (text : String)
  deriving DecidableEq, Repr

namespace Failure

/-- The name of the kind of failure. -/
def kind : Failure → String
  | .acquisition .. => "Acquisition"
  | .invalidCommand _ => "InvalidCommand"
  | .notReady _ => "NotReady"
  | .argument _ => "Argument"
  | .lifecycle _ => "Lifecycle"
  | .ioRead .. => "IORead"
  | .ioWrite .. => "IOWrite"
  | .badDocument _ => "TomlDe"
  | .bus _ => "DBus"
  | .internal _ => "Internal"

/-- What happened, without the kind of the failure. -/
def detail : Failure → String
  | .acquisition line code =>
    "Failed to acquire " ++ line ++ ": error code " ++ toString code.number
  | .invalidCommand text | .notReady text | .argument text | .lifecycle text => text
  | .ioRead file cause =>
    "An IO error occurred when reading from " ++ file.quoted ++ ": " ++ cause.message
  | .ioWrite file data cause =>
    "An IO error occurred when writing " ++ Text.quote data ++ " to " ++ file.quoted ++ ": " ++
      cause.message
  | .badDocument text => "Failed to parse " ++ Text.quote text
  | .bus error => error.message
  | .internal text => "An Internal error occurred: " ++ text

/-- The failure in words. -/
def message (failure : Failure) : String :=
  "X8h7Error::" ++ failure.kind ++ ": " ++ failure.detail

/-- The code of the operating system behind the failure, if there is one. -/
def osCode : Failure → Option OsCode
  | .acquisition _ code => some code
  | .ioRead _ cause | .ioWrite _ _ cause => cause.code
  | _ => none

/-- The parts of the failure. -/
def parts : Failure → String
  | .acquisition line code =>
    "Acquisition \x7b line: " ++ Text.quote line ++ ", code: " ++ toString code.number ++ " \x7d"
  | .ioRead file cause =>
    "IORead \x7b file: " ++ file.quoted ++ ", e: " ++ cause.parts ++ " \x7d"
  | .ioWrite file data cause =>
    "IOWrite \x7b data: " ++ Text.quote data ++ ", file: " ++ file.quoted ++ ", e: " ++
      cause.parts ++ " \x7d"
  | .badDocument text => "TomlDe \x7b toml_string: " ++ Text.quote text ++ " \x7d"
  | .bus error => "DBus(" ++ error.parts ++ ")"
  | .invalidCommand text => "InvalidCommand(" ++ Text.quote text ++ ")"
  | .notReady text => "NotReady(" ++ Text.quote text ++ ")"
  | .argument text => "Argument(" ++ Text.quote text ++ ")"
  | .lifecycle text => "Lifecycle(" ++ Text.quote text ++ ")"
  | .internal text => "Internal(" ++ Text.quote text ++ ")"

/-- The name of the error that a caller on the bus gets. -/
def replyName : Failure → String
  | .invalidCommand _ | .argument _ => "org.freedesktop.DBus.Error.InvalidArgs"
  | .ioRead .. | .ioWrite .. => "org.freedesktop.DBus.Error.IOError"
  | _ => "org.freedesktop.DBus.Error.Failed"

/-- The error that a caller on the bus gets. -/
def reply (failure : Failure) : ErrorReply := ⟨failure.replyName, some failure.message⟩

theorem reply_text (failure : Failure) : failure.reply.text = some failure.message := rfl

/-- A caller is told one of three things. -/
theorem reply_name (failure : Failure) :
    failure.reply.name ∈
      ["org.freedesktop.DBus.Error.InvalidArgs", "org.freedesktop.DBus.Error.IOError",
       "org.freedesktop.DBus.Error.Failed"] := by
  cases failure <;> simp [reply, replyName]

end Failure

end CoprocReset
