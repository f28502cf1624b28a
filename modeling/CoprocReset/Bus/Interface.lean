import CoprocReset.Reset.Controller

/-!
# The interface of an attribute

A caller on the bus reads an attribute or writes to it. Each call is a script on the controller
behind the attribute; a failure is logged and becomes an error reply. A text with a null character
is none that a message can carry: a call with such a text reaches no attribute (`isReadable`).
-/

namespace CoprocReset.Bus

/-- What can be called on an attribute, by the type of the answer. -/
inductive InterfaceCall : Type → Type where
  | read : InterfaceCall String
  | write (data : String) : InterfaceCall Nat

/-- Whether the call can be read from its message. -/
def InterfaceCall.isReadable {α : Type} : InterfaceCall α → Bool
  | .read => true
  | .write data => !data.toList.contains '\x00'

/-- The answer to a call. -/
abbrev Answer (α : Type) := Except ErrorReply α

/-- Why a caller has no answer. -/
inductive CallError where
  /-- The call was not made. -/
  | declined (error : BusError)
  | replied (reply : ErrorReply)
  deriving DecidableEq, Repr

/-- The error in words. -/
def CallError.message : CallError → String
  | .declined error => error.message
  | .replied reply => reply.name ++ ": " ++ reply.text.getD "no details"

variable {L α : Type}

/-- The script with its failure logged and made into an error reply. -/
def answering (script : ControllerScript L α) : ControllerScript L (Answer α) := do
  match ← script.attempt with
  | .ok value => return .ok value
  | .error failure =>
    Controller.note .error failure.message
    return .error failure.reply

/-- What a call does with the controller of that name. -/
def InterfaceCall.script (name : String) : InterfaceCall α → ControllerScript L (Answer α)
  | .read => do
    Controller.note .info ("read called on " ++ name)
    answering Controller.content
  | .write data => do
    Controller.note .info ("write called on " ++ name ++ " with data: " ++ Text.quote data)
    answering (Controller.store name data)

end CoprocReset.Bus
