import CoprocReset.Failure

/-!
# Object paths

Every attribute has an object of its own below one root. The daemon publishes under names of ASCII
letters, digits and underscores only (`attributePath`), which is why its paths are valid; a caller
may ask for any name, and what comes of it is a valid path or not (`checkPath`).
-/

namespace CoprocReset.Bus

/-- The name that the daemon claims on the bus. -/
def serviceName : String := "org.arduino.x8h7rstd"

/-- The interface of an attribute. -/
def interfaceName : String := "org.arduino.x8h7rstd.reset"

/-- The path below which all attributes are. -/
def objectRoot : String := "/org/arduino/x8h7rstd"

/-- The path of the object of a name. -/
def pathOf (attributeName : String) : String := objectRoot ++ "/" ++ attributeName

/-- What an element of an object path consists of. -/
def isPathChar (c : Char) : Bool := c.isAlphanum || c = '_'

/-- Whether the characters are one element of an object path. -/
def isPathElement (cs : List Char) : Bool := !cs.isEmpty && cs.all isPathChar

/-- Whether the text is an object path: the root alone, or elements each after a slash. -/
def isObjectPath (path : String) : Bool :=
  match path.toList with
  | '/' :: [] => true
  | '/' :: rest => (rest.splitOn '/').all isPathElement
  | _ => false

/-- The path, if a call may go there. -/
def checkPath (path : String) : Except BusError String :=
  if isObjectPath path then .ok path else .error .invalidPath

/-- The path of the object of a name, if a call may go there. -/
def requestPath (attributeName : String) : Except BusError String := checkPath (pathOf attributeName)

/-- The beginnings of a text that end before a slash, the shortest first. -/
def beforeSlashes : List Char → List (List Char)
  | [] => []
  | c :: rest =>
    let longer := (beforeSlashes rest).map (c :: ·)
    if c = '/' then [] :: longer else longer

/-- The paths above a path, except for the root of all. -/
def pathsAbove (path : String) : List String :=
  ((beforeSlashes path.toList).filter (!·.isEmpty)).map String.ofList

/-- Whether the one path is below the other. -/
def isBelow (path other : String) : Bool := (other ++ "/").toList.isPrefixOf path.toList

/-- The path at which an attribute is published. -/
def attributePath (attributeName : String) : Except Failure String :=
  if isPathElement attributeName.toList then .ok (pathOf attributeName)
  else
    .error (.argument (Text.quote attributeName ++
      " is not a valid attribute name: only ASCII letters, digits and '_' are allowed"))

end CoprocReset.Bus
