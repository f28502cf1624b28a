import CoprocReset.Text.Quoted

/-!
# Paths

A path is its text: `a//b` and `a/b` are two paths, even if they lead to the same file, and a
message shows the path as it was given. `join` continues a directory's path by a name, or starts
anew if the name is itself a path from the root.
-/

namespace CoprocReset.Files

/-- The path of a file or a directory, as written. -/
structure Path where
  text : String
  deriving DecidableEq, Repr, Inhabited

namespace Path

/-- The path of `name` within the directory `base`. A slash is put between the two unless there
is one; an empty name leaves the slash at the end. -/
def join (base : Path) (name : String) : Path :=
  if name.toList.head? = some '/' then ⟨name⟩
  else if base.text = "" ∨ base.text.toList.getLast? = some '/' then ⟨base.text ++ name⟩
  else ⟨base.text ++ "/" ++ name⟩

/-- The path in a message. -/
def quoted (path : Path) : String := Text.quote path.text

/-- The names between the slashes. -/
def components (path : Path) : List String :=
  ((path.text.toList.splitOn '/').filter (· ≠ [])).map String.ofList

/-- Whether the path asks for a directory by ending in a slash. -/
def endsInSlash (path : Path) : Bool := path.text.toList.getLast? = some '/'

/-- The names that count: a single dot stands for nothing, unless it begins a path that does not
start at the root. -/
def steps (path : Path) : List String :=
  match path.components with
  | [] => []
  | first :: rest =>
    if path.text.toList.head? ≠ some '/' ∧ first = "." then first :: rest.filter (· ≠ ".")
    else (first :: rest).filter (· ≠ ".")

/-- Whether two paths differ in nothing but doubled slashes, slashes at the end and single dots. -/
def agrees (path other : Path) : Bool :=
  (path.text.toList.head? = some '/') = (other.text.toList.head? = some '/') ∧
    path.steps = other.steps

end Path

end CoprocReset.Files
