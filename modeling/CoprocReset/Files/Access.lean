import CoprocReset.Action
import CoprocReset.Files.Tree

/-!
# Reading and writing files

A text is read from a file and written to one in one go. What is written replaces the whole
content, however long it was. A refusal names the file, the data if there were any, and the
cause; it leaves the tree as it was (`write_failed`). Reading never changes the tree
(`read_world`).
-/

namespace CoprocReset.Files

/-- Whether the path leads to anything. -/
def FileTree.leads (tree : FileTree) (path : Path) : Bool := (tree.find path).isOk

/-- Whether the path leads to a file. -/
def FileTree.leadsToFile (tree : FileTree) (path : Path) : Bool :=
  match tree.find path with
  | .ok (_, .file _) => true
  | _ => false

/-- The text that an entry holds. Bytes without end are read until memory runs out. -/
def Entry.text : Entry → Except IoCause String
  | .directory => .error (.os .isDirectory)
  | .file bytes =>
    match String.fromUTF8? bytes with
    | some text => .ok text
    | none => .error .notUtf8
  | .fullDevice => .error .outOfMemory

/-- What an entry becomes when its content is replaced by a text. -/
def Entry.replaced (entry : Entry) (text : String) : Except IoCause Entry :=
  match entry with
  | .directory => .error (.os .isDirectory)
  | .file _ => .ok (.file text.toUTF8)
  | .fullDevice => if text = "" then .ok .fullDevice else .error (.os .noSpace)

/-- The text that the path leads to. -/
def FileTree.read (tree : FileTree) (path : Path) : Except IoCause String := do
  let (_, entry) ← tree.find path
  entry.text

/-- The tree with the content at the path replaced. Unless `create` is set, the file has to be
there already. -/
def FileTree.write (tree : FileTree) (path : Path) (create : Bool) (text : String) :
    Except IoCause FileTree := do
  let (location, entry) ← tree.findForWriting path create
  let entry ← entry.replaced text
  return tree.put location entry

/-- Reads the text of a file. -/
def read (path : Path) : Action FileTree String := fun tree =>
  match tree.read path with
  | .ok text => ⟨.done text, tree, []⟩
  | .error cause => ⟨.failed (.ioRead path cause), tree, []⟩

/-- Replaces the content of a file. Unless `create` is set, the file has to be there already. -/
def write (path : Path) (create : Bool) (text : String) : Action FileTree Unit := fun tree =>
  match tree.write path create text with
  | .ok tree => ⟨.done (), tree, []⟩
  | .error cause => ⟨.failed (.ioWrite path text cause), tree, []⟩

theorem read_world (path : Path) (tree : FileTree) : (read path tree).world = tree := by
  unfold read
  split <;> rfl

/-- A refused write leaves the tree as it was. -/
theorem write_failed {path : Path} {create : Bool} {text : String} {tree : FileTree}
    {failure : Failure} (h : (write path create text tree).outcome = .failed failure) :
    (write path create text tree).world = tree := by
  unfold write at h ⊢
  split <;> simp_all

end CoprocReset.Files
