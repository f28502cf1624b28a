import CoprocReset.Toml.Scalar
import CoprocReset.Toml.Table

/-!
# Reading documents

`Document.read` takes a text to the table of its values. It reads the lines first, each a key with
a value or a header, and then builds the table line by line. A text that breaks a rule anywhere is
no document at all.
-/

namespace CoprocReset.Toml

open Text (Reader)
open Text.Reader

/-! ## Keys -/

/-- What may stand in a key without quotes. -/
def isBare (c : Char) : Bool := c.isAlphanum || c = '-' || c = '_'

/-- One part of a key. -/
def keyPart : Reader String := do
  return String.ofList
    (← basicString <|> literalString <|> (do return (← next isBare) :: (← span isBare)))

/-- The fewest parts that are too many for a key, and the fewest arrays and tables within each
other that are too many for a value. -/
def limit : Nat := 80

/-- A key by its parts: the path to a table, and the name in that table. -/
def key : Reader (List String × String) := do
  let parts ← separated (do spaces; let part ← keyPart; spaces; return part) (char '.')
  require (parts.length < limit)
  return (parts.dropLast, ← ofOption parts.getLast?)

/-! ## Values -/

/-- The elements of an array, up to the closing bracket. A comma may follow the last of them. -/
def elements (value : Reader Value) : Reader (List Value) := do
  let found ← optional do
    let found ← separated (do gap; let element ← value; gap; return element) (char ',')
    let _ ← optional (char ',')
    return found
  gap
  char ']'
  return found.getD []

/-- A key with a value within braces. -/
def binding (value : Reader Value) : Reader (List String × String × Value) := do
  let (path, name) ← key
  char '='
  spaces
  let value ← value
  spaces
  return (path, name, value)

/-- The keys and values of a table, up to the closing brace. -/
def bindings (value : Reader Value) : Reader (List (List String × String × Value)) := do
  let found ← optional (separated (binding value) (char ','))
  spaces
  char '\x7d'
  return found.getD []

/-- A value with at most the given number of arrays and tables within each other. -/
def value : Nat → Reader Value
  | 0 => scalar
  | levels + 1 =>
    scalar <|>
    (do
      char '['
      return .array .inline (← elements (value levels))) <|>
    (do
      char '\x7b'
      ofOption (Value.ofBraces? (← bindings (value levels))))

/-! ## Lines -/

/-- What a line says. -/
inductive Line where
  | blank
  | binding (path : List String) (name : String) (value : Value)
  | table (path : List String) (name : String)
  | element (path : List String) (name : String)

/-- The line of a key with a value. -/
def bindingLine : Reader Line := do
  let (path, name) ← key
  char '='
  spaces
  let value ← value (limit - 1)
  lineRest
  return .binding path name value

/-- The line of a header. -/
def headerLine : Reader Line :=
  (do
    word ['[', '[']
    let (path, name) ← key
    word [']', ']']
    lineRest
    return .element path name) <|>
  (do
    char '['
    ahead (· ≠ '[')
    let (path, name) ← key
    char ']'
    lineRest
    return .table path name)

/-- One line, from its first word on. -/
def line : Reader Line :=
  (do comment; lineEnd; return .blank) <|> (do newline; return .blank) <|> headerLine <|>
    bindingLine

/-- All lines of a document. A byte order mark may come first. -/
def lines : Reader (List Line) := do
  let _ ← optional (char '\ufeff')
  spaces
  let found ← many do
    let found ← line
    spaces
    return found
  ended
  return found

/-! ## Documents -/

/-- The root of a document while it is built, and the header under which the next line stands. -/
structure Progress where
  root : Draft
  header : List String

/-- What a line makes of the document. -/
def Progress.add (progress : Progress) : Line → Option Progress
  | .blank => some progress
  | .binding path name value => do
    let root ← progress.root.along .header (·.insert .dotted path name value) progress.header
    return { progress with root }
  | .table path name => do
    let root ← progress.root.openTable path name
    return ⟨root, path ++ [name]⟩
  | .element path name => do
    let root ← progress.root.openElement path name
    return ⟨root, path ++ [name]⟩

/-- The table of a document that is read from a text. -/
def read (text : String) : Option Entries := do
  let (lines, _) ← lines text.toList
  let progress ← lines.foldlM Progress.add ⟨⟨.header, []⟩, []⟩
  return progress.root.entries

end CoprocReset.Toml
