import CoprocReset.Client.Dialogue
import CoprocReset.Text.Decimal

/-!
# The arguments of a client

`[--attribute NAME] status | reset | release | write VALUE | cycle [--hold-ms N]`

An option takes its value from after an equals sign or from the next argument, and is given at
most once. An argument that starts with a dash and has more to it is never a value there, nor
where a value is expected by its place, unless two dashes alone stand before it.
-/

namespace CoprocReset.Client

/-- What a client is called with. -/
structure Invocation where
  attributeName : String
  errand : Errand
  deriving DecidableEq, Repr

/-- Whether an argument is taken for an option. -/
def looksLikeOption (argument : String) : Bool :=
  match argument.toList with
  | '-' :: _ :: _ => true
  | _ => false

/-- The value after the equals sign of an option. -/
def attached? (name argument : String) : Option String :=
  ((name ++ "=").toList.isPrefixOf? argument.toList).map String.ofList

/-- The option at the front with its value, and the arguments after it. -/
def option? (name : String) : List String → Option (String × List String)
  | [] => none
  | argument :: rest =>
    if argument = name then
      match rest with
      | value :: rest => if looksLikeOption value then none else some (value, rest)
      | [] => none
    else (attached? name argument).map (·, rest)

/-- The values given by their place. After two dashes alone everything is one. -/
def values? : List String → Option (List String)
  | [] => some []
  | argument :: rest =>
    if argument = "--" then some rest
    else if looksLikeOption argument then none
    else (values? rest).map (argument :: ·)

/-- How long a cycle holds the coprocessor unless told otherwise, in milliseconds. -/
def defaultHoldMs : Nat := 50

/-- A number of milliseconds: 64 bits without a sign, though a plus may stand before it. -/
def milliseconds? (text : String) : Option Nat :=
  match Text.readInteger .unsigned64 text.toList with
  | .ok number => some number.toNat
  | .error _ => none

/-- The errand that the arguments after `cycle` make. -/
def cycle? (arguments : List String) : Option Errand :=
  match option? "--hold-ms" arguments with
  | some (text, rest) => do
    let holdMs ← milliseconds? text
    if (← values? rest) = [] then some (.cycle holdMs) else none
  | none =>
    match values? arguments with
    | some [] => some (.cycle defaultHoldMs)
    | _ => none

/-- The errand that a command and the arguments after it make. -/
def errand? (command : String) (arguments : List String) : Option Errand :=
  if command = "cycle" then cycle? arguments
  else do
    match command, ← values? arguments with
    | "status", [] => some .status
    | "reset", [] => some (.write (Errand.textOf .hold))
    | "release", [] => some (.write (Errand.textOf .release))
    | "write", [data] => some (.write data)
    | _, _ => none

/-- The attribute of the only device there is. -/
def defaultAttribute : String := "x8h7_reset"

/-- The invocation that arguments make. -/
def invocation? (arguments : List String) : Option Invocation := do
  let (attributeName, rest) := (option? "--attribute" arguments).getD (defaultAttribute, arguments)
  match rest with
  | [] => none
  | command :: rest =>
    let errand ← errand? command rest
    return { attributeName, errand }

end CoprocReset.Client
