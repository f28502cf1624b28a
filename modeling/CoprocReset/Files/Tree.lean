import CoprocReset.Assoc
import CoprocReset.Files.OsError
import CoprocReset.Files.Path

/-!
# File trees

A file tree says what stands at each location: a directory, a file with its bytes, or a device
that takes no data. A location is the list of names on the way from the root.

`find` leads from a path to a location the way the operating system does. It takes the names from
left to right and stops at the first that is too long, that leads nowhere, or that would have to
be a directory and is none. `findForWriting` does the same for a file that may still have to be
made. A change at one location is invisible at every other (`entryAt_put`).
-/

namespace CoprocReset.Files

/-- The names on the way from the root. -/
abbrev Location := List String

/-- What can stand at a location. -/
inductive Entry where
  | directory
  | file (bytes : ByteArray)
  /-- A device that can be opened and takes no byte. Those that it gives have no end. -/
  | fullDevice

/-- What stands where. The root is always a directory. -/
structure FileTree where
  entries : List (Location × Entry)

namespace FileTree

/-- The tree of an empty root. -/
def empty : FileTree := ⟨[]⟩

/-- What stands at a location. -/
def entryAt (tree : FileTree) (location : Location) : Option Entry :=
  if location = [] then some .directory else tree.entries.lookup location

/-- The tree with the entry at the location. -/
def put (tree : FileTree) (location : Location) (entry : Entry) : FileTree :=
  ⟨Assoc.insert location entry tree.entries⟩

/-- The tree without the location and what is below it. -/
def prune (tree : FileTree) (location : Location) : FileTree :=
  ⟨tree.entries.filter fun other => !location.isPrefixOf other.1⟩

/-- The tree with a directory at the location if none is there. -/
def putDirectory (tree : FileTree) (location : Location) : FileTree :=
  match tree.entryAt location with
  | some .directory => tree
  | _ => tree.put location .directory

/-- The tree with the entry in place of whatever is at the location, in directories made for it
where needed. -/
def plant (tree : FileTree) (location : Location) (entry : Entry) : FileTree :=
  let parents := (List.range location.length).map location.take
  ((parents.foldl putDirectory tree).prune location).put location entry

/-- Everything below a location, with the names on the way from there. -/
def below (tree : FileTree) (location : Location) : List (Location × Entry) :=
  tree.entries.filterMap fun (place, entry) =>
    match location.isPrefixOf? place with
    | some (name :: rest) => some (name :: rest, entry)
    | _ => none

/-! ## From paths to locations -/

/-- The most bytes that a name can have. -/
def nameLimit : Nat := 255

/-- The fewest bytes that are too many for a path. -/
def pathLimit : Nat := 4096

/-- What stands under a name in a directory. -/
def look (tree : FileTree) (directory : Location) (name : String) : Except OsCode Entry :=
  if nameLimit < name.utf8ByteSize then .error .nameTooLong
  else
    match tree.entryAt (directory ++ [name]) with
    | none => .error .noEntry
    | some entry => .ok entry

/-- The directory that the names lead to. One dot stays, two dots go up. -/
def walk (tree : FileTree) : Location → List String → Except OsCode Location
  | here, [] => .ok here
  | here, name :: rest =>
    if name = "." then tree.walk here rest
    else if name = ".." then tree.walk here.dropLast rest
    else
      match tree.look here name with
      | .error code => .error code
      | .ok .directory => tree.walk (here ++ [name]) rest
      | .ok _ => .error .notDirectory

/-- What is wrong with a path before anything is looked up. -/
def pathFault (path : Path) : Option IoCause :=
  if path.text.toList.contains '\x00' then some .nullInPath
  else if path.text = "" then some (.os .noEntry)
  else if pathLimit ≤ path.text.utf8ByteSize then some (.os .nameTooLong)
  else none

/-- Whether the last name of a path can only be a directory's. -/
def leadsToDirectory (path : Path) : Bool :=
  path.endsInSlash || path.components.getLast? = some "." || path.components.getLast? = some ".."

/-- The location that a path names, and what stands there. -/
def findEntry (tree : FileTree) (path : Path) : Except OsCode (Location × Entry) :=
  match path.components.getLast? with
  | none => .ok ([], .directory)
  | some name => do
    if leadsToDirectory path then
      let directory ← tree.walk [] path.components
      return (directory, .directory)
    else
      let directory ← tree.walk [] path.components.dropLast
      let entry ← tree.look directory name
      return (directory ++ [name], entry)

/-- The location at which a path may make a file. It is a mistake to name a directory. -/
def findSpot (tree : FileTree) (path : Path) : Except OsCode Location :=
  match path.components.getLast? with
  | none => .error .isDirectory
  | some name => do
    let directory ← tree.walk [] path.components.dropLast
    if leadsToDirectory path then .error .isDirectory
    else if nameLimit < name.utf8ByteSize then .error .nameTooLong
    else return directory ++ [name]

/-- The result of a search for a path that is worth one. -/
def search {α : Type} (path : Path) (result : Except OsCode α) : Except IoCause α :=
  match pathFault path with
  | some cause => .error cause
  | none => result.mapError .os

/-- The location that a path names, and what stands there. -/
def find (tree : FileTree) (path : Path) : Except IoCause (Location × Entry) :=
  search path (tree.findEntry path)

/-- The location that a path names for writing, and what stands there. If `create` is set, a file
that is missing counts as empty. -/
def findForWriting (tree : FileTree) (path : Path) (create : Bool) :
    Except IoCause (Location × Entry) :=
  if create then
    (search path (tree.findSpot path)).map fun location =>
      (location, (tree.entryAt location).getD (.file ByteArray.empty))
  else tree.find path

/-! ## Laws -/

/-- A change at one location is invisible at every other. -/
theorem entryAt_put (tree : FileTree) (location other : Location) (entry : Entry)
    (root : location ≠ []) :
    (tree.put location entry).entryAt other =
      if other = location then some entry else tree.entryAt other := by
  by_cases hr : other = []
  · subst hr
    simp [entryAt, Ne.symm root]
  · simp [entryAt, put, hr, Assoc.lookup_insert]

end FileTree

end CoprocReset.Files
