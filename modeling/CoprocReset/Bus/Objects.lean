import CoprocReset.Bus.Interface
import CoprocReset.Bus.Path
import CoprocReset.Line.Memory
import CoprocReset.Publisher

/-!
# Objects on the bus

An object table says what each path serves: the attribute of a controller, and besides it perhaps
the interface of an unrelated neighbour. Objects form a tree. Where something is added, the paths
above it become objects too, which serve nothing of their own and stay after what is below them has
gone (`object_addBare`); an object that loses its last interface goes, and all below it goes with it
(`object_prune`). The controller behind an attribute is one of the station, or that of some other
device that happens to be on the same connection.

`busPublisher` publishes in such a table. It never replaces what a path serves already
(`serve_of_served`).
-/

namespace CoprocReset.Bus

/-- Who is behind an attribute on the bus. -/
inductive Server where
  | station (handle : Handle)
  /-- Another device, with lines of its own. -/
  | stranger (bank : MemoryBank) (controller : Controller MemoryLine)

/-- What a path serves. -/
structure BusObject where
  server : Option Server
  neighbour : Bool

/-- The objects by their paths. -/
abbrev ObjectTable := List (String × BusObject)

namespace ObjectTable

/-- What the path serves: nothing if there is no object. -/
def object (table : ObjectTable) (path : String) : BusObject :=
  (table.lookup path).getD ⟨none, false⟩

/-- Whether there is an object at the path. -/
def hasObject (table : ObjectTable) (path : String) : Bool := (table.lookup path).isSome

/-- The table with an object at the path, which serves nothing unless it was there. -/
def addBare (table : ObjectTable) (path : String) : ObjectTable :=
  if table.hasObject path then table else Assoc.insert path ⟨none, false⟩ table

/-- The table with the object at the path and with objects above it. -/
def put (table : ObjectTable) (path : String) (object : BusObject) : ObjectTable :=
  Assoc.insert path object ((pathsAbove path).foldl addBare table)

/-- The table without the object at the path and all below it. -/
def prune (table : ObjectTable) (path : String) : ObjectTable :=
  table.filter fun entry => entry.1 ≠ path && !isBelow entry.1 path

/-- Adds an attribute at the path unless there is one. Says whether it was added. -/
def serve (table : ObjectTable) (path : String) (server : Server) : Bool × ObjectTable :=
  if (table.object path).server.isSome then (false, table)
  else (true, table.put path { table.object path with server := some server })

/-- Takes the attribute at the path away. Says whether the object is gone with it. -/
def vacate (table : ObjectTable) (path : String) : Except BusError (Bool × ObjectTable) :=
  let object := table.object path
  if object.server.isNone then .error .interfaceNotFound
  else if object.neighbour then .ok (false, table.put path { object with server := none })
  else .ok (true, table.prune path)

/-- Adds the neighbour at the path unless it is there. Says whether it was added. -/
def addNeighbour (table : ObjectTable) (path : String) : Bool × ObjectTable :=
  if (table.object path).neighbour then (false, table)
  else (true, table.put path { table.object path with neighbour := true })

/-- An object that only stands above another serves nothing. -/
@[simp] theorem object_addBare (table : ObjectTable) (path other : String) :
    (table.addBare path).object other = table.object other := by
  unfold addBare object
  split
  · rfl
  · next h =>
    rw [Assoc.lookup_insert]
    split
    · next same =>
      subst same
      simp only [hasObject, Option.isSome_iff_ne_none, ne_eq, Decidable.not_not] at h
      simp [h]
    · rfl

/-- Only the path itself serves something else after an object was put there. -/
theorem object_put (table : ObjectTable) (path other : String) (object : BusObject) :
    (table.put path object).object other =
      if other = path then object else table.object other := by
  have kept : ∀ (above : List String) (table : ObjectTable),
      (above.foldl addBare table).object other = table.object other := by
    intro above
    induction above with
    | nil => intro table; rfl
    | cons first rest ih => intro table; simp [ih]
  rw [← kept (pathsAbove path) table]
  unfold put
  conv => lhs; unfold ObjectTable.object
  rw [Assoc.lookup_insert]
  split <;> rfl

/-- Where an object goes, nothing is served, and nothing is served below. -/
theorem object_prune (table : ObjectTable) (path other : String) :
    (table.prune path).object other =
      if other = path ∨ isBelow other path = true then ⟨none, false⟩ else table.object other := by
  unfold prune object
  rw [Assoc.lookup_filter fun name => name ≠ path && !isBelow name path]
  by_cases same : other = path <;> by_cases below : isBelow other path <;> simp [same, below]

/-- A path that serves an attribute goes on serving it. -/
theorem serve_of_served {table : ObjectTable} {path : String} (server : Server)
    (h : (table.object path).server.isSome = true) :
    table.serve path server = (false, table) := by
  simp [serve, h]

end ObjectTable

/-! ## Publishing -/

/-- Publishes an attribute of the station. -/
def publish (attributeName : String) (handle : Handle) : Action ObjectTable Unit := do
  let path ← Action.ofExcept (attributePath attributeName)
  let (added, table) := (← Action.world).serve path (.station handle)
  Action.update fun _ => table
  if added then Action.noteInfo (attributeName ++ " published at " ++ path)
  else Action.fail (.internal (attributeName ++ " is already published at " ++ path))

/-- Takes an attribute away. -/
def unpublish (attributeName : String) : Action ObjectTable Unit := do
  let path ← Action.ofExcept (attributePath attributeName)
  match (← Action.world).vacate path with
  | .error refusal => Action.fail (.bus refusal)
  | .ok (gone, table) =>
    Action.update fun _ => table
    if gone then Action.noteInfo (attributeName ++ " removed from " ++ path)
    else Action.fail (.internal (attributeName ++ " was not published at " ++ path))

/-- The publisher of attributes on the bus. -/
def busPublisher : Publisher ObjectTable where
  publish attributeName handle := Script.ask (.own (publish attributeName handle))
  unpublish attributeName := Script.ask (.own (unpublish attributeName))

/-! ## Calls from outside -/

variable {W L α : Type}

/-- The reply to a call to a path without an object. -/
def unknownObject (path : String) : ErrorReply :=
  ⟨"org.freedesktop.DBus.Error.UnknownObject", some ("Unknown object '" ++ path ++ "'")⟩

/-- The reply to a call to an object without an attribute. -/
def unknownInterface : ErrorReply :=
  ⟨"org.freedesktop.DBus.Error.UnknownInterface",
    some ("Unknown interface '" ++ interfaceName ++ "'")⟩

/-- The reply to a call that cannot be read. -/
def unreadable : ErrorReply := ⟨"org.freedesktop.zbus.Error", none⟩

/-- A call to another device at the path. -/
def callStranger (path : String) (bank : MemoryBank) (controller : Controller MemoryLine)
    (call : InterfaceCall α) : Action ObjectTable (Answer α) := fun table =>
  let run := Controller.exec memoryHardware (call.script controller.name) (bank, controller)
  let server := Server.stranger run.world.1 run.world.2
  ⟨run.outcome, table.put path { table.object path with server := some server }, run.log⟩

/-- A call to the object at a path. -/
def call (hw : Hardware W L) (path : String) (call : InterfaceCall α) :
    Action (Station W L ObjectTable) (Answer α) := do
  let table := (← Action.world).publisher
  if table.hasObject path then
    match (table.object path).server with
    | none => return .error unknownInterface
    | some server =>
      if call.isReadable then
        match server with
        | .station handle => Station.control hw handle fun name => call.script name
        | .stranger bank controller =>
          (callStranger path bank controller call).on Station.publisherPart
      else return .error unreadable
  else return .error (unknownObject path)

/-- A call to the attribute of a name. -/
def request (hw : Hardware W L) (attributeName : String) (call : InterfaceCall α) :
    Action (Station W L ObjectTable) (Except CallError α) := do
  match requestPath attributeName with
  | .ok path => return (← Bus.call hw path call).mapError .replied
  | .error error => return .error (.declined error)

end CoprocReset.Bus
