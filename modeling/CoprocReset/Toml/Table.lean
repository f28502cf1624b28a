import CoprocReset.Toml.Value

/-!
# Building tables

A document is built line by line. Each line walks from the root along a path, makes the tables
that are missing on the way, and adds something at the end. No line may change what is there:
`insert` refuses a key that is taken, `openTable` a table that has a header already, and a walk
refuses to enter what it cannot add to.
-/

namespace CoprocReset.Toml

/-- Along what a walk goes. -/
inductive Walk where
  /-- The path of a header. -/
  | header
  /-- The parts of a key on a line. -/
  | dotted
  /-- The parts of a key within braces. -/
  | inlineDotted
  deriving DecidableEq, Repr

namespace Walk

/-- How a table comes about that the walk misses. -/
def form : Walk → TableForm
  | .header => .implied
  | .dotted => .dotted
  | .inlineDotted => .inlineDotted

/-- Whether the walk may enter a table of the form. Braces are closed for ever, and a key of
several parts adds nothing to a table with a header. -/
def mayEnter : Walk → TableForm → Bool
  | .header, .header | .header, .implied | .header, .dotted => true
  | .dotted, .implied | .dotted, .dotted => true
  | .inlineDotted, .inlineDotted => true
  | _, _ => false

end Walk

/-- A table while it is built. -/
structure Draft where
  form : TableForm
  entries : Entries

namespace Draft

/-- The table as a value. -/
def toValue (draft : Draft) : Value := .table draft.form draft.entries

/-- The value of a key. -/
def find? (draft : Draft) (key : String) : Option Value := draft.entries.lookup key

/-- The table with the value added at the end. -/
def append (draft : Draft) (key : String) (value : Value) : Draft :=
  { draft with entries := draft.entries ++ [(key, value)] }

/-- The table with the value of a key replaced where it stands. -/
def replace (draft : Draft) (key : String) (value : Value) : Draft :=
  { draft with
    entries := draft.entries.map fun entry => if entry.1 = key then (key, value) else entry }

/-- The table without the key. -/
def remove (draft : Draft) (key : String) : Draft :=
  { draft with entries := draft.entries.filter fun entry => entry.1 ≠ key }

/-- The elements with the last one, which has to be a table, changed. -/
def changeLast (change : Draft → Option Draft) : List Value → Option (List Value)
  | [] => none
  | [.table form entries] => do
    let changed ← change ⟨form, entries⟩
    return [changed.toValue]
  | [_] => none
  | first :: second :: rest => do
    let rest ← changeLast change (second :: rest)
    return first :: rest

/-- Walks along a path and changes the table at its end. Of an array that was made by headers the
walk enters the last element. -/
def along (draft : Draft) (walk : Walk) (change : Draft → Option Draft) :
    List String → Option Draft
  | [] => change draft
  | key :: path =>
    match draft.find? key with
    | none => do
      let made ← along ⟨walk.form, []⟩ walk change path
      return draft.append key made.toValue
    | some (.table form entries) =>
      if walk.mayEnter form then do
        let changed ← along ⟨form, entries⟩ walk change path
        return draft.replace key changed.toValue
      else none
    | some (.array .headers elements) =>
      if walk = .inlineDotted then none
      else do
        let elements ← changeLast (fun last => along last walk change path) elements
        return draft.replace key (.array .headers elements)
    | some _ => none

/-- Adds a value under a key whose earlier parts are the path. They have to lead to a table that
was made by such keys. -/
def insert (draft : Draft) (walk : Walk) (path : List String) (key : String) (value : Value) :
    Option Draft :=
  draft.along walk
    (fun draft =>
      if path ≠ [] ∧ draft.form ≠ walk.form then none
      else if (draft.find? key).isSome then none
      else some (draft.append key value))
    path

/-- Adds the table of a header, or gives a header to one that was only implied. -/
def openTable (draft : Draft) (path : List String) (key : String) : Option Draft :=
  draft.along .header
    (fun draft =>
      match draft.find? key with
      | none => some (draft.append key (.table .header []))
      | some (.table .implied entries) =>
        some ((draft.remove key).append key (.table .header entries))
      | some _ => none)
    path

/-- Adds an element to the array of a header. -/
def openElement (draft : Draft) (path : List String) (key : String) : Option Draft :=
  draft.along .header
    (fun draft =>
      match draft.find? key with
      | none => some (draft.append key (.array .headers [.table .header []]))
      | some (.array .headers elements) =>
        some (draft.replace key (.array .headers (elements ++ [.table .header []])))
      | some _ => none)
    path

end Draft

/-- The table of the keys and values between two braces. -/
def Value.ofBraces? (pairs : List (List String × String × Value)) : Option Value := do
  let draft ← pairs.foldlM
    (fun (draft : Draft) (path, key, value) => draft.insert .inlineDotted path key value)
    ⟨.inline, []⟩
  return draft.toValue

end CoprocReset.Toml
