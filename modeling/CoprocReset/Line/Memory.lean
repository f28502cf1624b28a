import CoprocReset.Assoc
import CoprocReset.Line.Hardware

/-!
# Lines in memory

A `MemoryBank` is a table of lines by name, with a journal of all levels that were set and a list
of names whose acquisition is made to fail. Nothing is driven: the bank serves for dry runs and
for trying things out. A line in the bank belongs to one holder at a time: acquiring a name whose
line is held is refused until the holder releases it. Operations on one name leave every other
alone (`entryAt_put`).
-/

namespace CoprocReset

/-- One line of the bank. -/
structure MemoryEntry where
  level : Level
  polarity : Polarity
  held : Bool
  deriving DecidableEq, Repr

/-- The level on the pin. -/
def MemoryEntry.physicalLevel (entry : MemoryEntry) : Level :=
  entry.polarity.toPhysical entry.level

/-- What the holder of a line in memory keeps. -/
structure MemoryLine where
  name : String
  polarity : Polarity
  deriving DecidableEq, Repr

/-- The lines by name, the levels set in their order, and the failures to be made. -/
structure MemoryBank where
  lines : List (String × MemoryEntry)
  journal : List (String × Level)
  refusals : List (String × Files.OsCode)
  deriving DecidableEq, Repr

namespace MemoryBank

/-- The bank without a line. -/
def empty : MemoryBank := ⟨[], [], []⟩

/-- The line of a name. -/
def entryAt (bank : MemoryBank) (name : String) : Option MemoryEntry := bank.lines.lookup name

/-- The bank with the line of a name replaced. -/
def put (bank : MemoryBank) (name : String) (entry : MemoryEntry) : MemoryBank :=
  { bank with lines := Assoc.insert name entry bank.lines }

/-- Makes every following acquisition of the name fail with the code. -/
def refuse (bank : MemoryBank) (name : String) (code : Files.OsCode) : MemoryBank :=
  { bank with refusals := Assoc.insert name code bank.refusals }

/-- Lets the name be acquired again. -/
def allow (bank : MemoryBank) (name : String) : MemoryBank :=
  { bank with refusals := Assoc.erase name bank.refusals }

/-- Changes a level behind its owner's back. A name that was never acquired has no level. -/
def force (bank : MemoryBank) (name : String) (level : Level) : MemoryBank :=
  match bank.entryAt name with
  | some entry => bank.put name { entry with level := level }
  | none => bank

theorem entryAt_put (bank : MemoryBank) (name other : String) (entry : MemoryEntry) :
    (bank.put name entry).entryAt other =
      if other = name then some entry else bank.entryAt other := by
  simp [entryAt, put, Assoc.lookup_insert]

end MemoryBank

namespace MemoryLine

/-- The failure of a call on a line that is not there or not held. -/
def notHeld (line : MemoryLine) : Failure :=
  .internal ("memory line " ++ line.name ++ " is not held")

/-- Hands out the line of the requested name, driven to its first level. -/
def acquire (request : LineRequest) : Action MemoryBank MemoryLine := do
  let bank ← Action.world
  match bank.refusals.lookup request.name with
  | some code => Action.fail (.acquisition request.name code)
  | none =>
    if (bank.entryAt request.name).any (·.held) then
      Action.fail (.acquisition request.name .busy)
    else
      Action.update (·.put request.name ⟨request.initial, request.polarity, true⟩)
      return ⟨request.name, request.polarity⟩

/-- The level of the line. -/
def get (line : MemoryLine) : Action MemoryBank Level := do
  match (← Action.world).entryAt line.name with
  | some entry => return entry.level
  | none => Action.fail line.notHeld

/-- Sets the level of the line and enters it in the journal. -/
def set (line : MemoryLine) (level : Level) : Action MemoryBank Unit := do
  match (← Action.world).entryAt line.name with
  | some entry =>
    Action.update fun bank =>
      { bank.put line.name { entry with level := level } with
        journal := bank.journal ++ [(line.name, level)] }
  | none => Action.fail line.notHeld

/-- Gives the line back. -/
def release (line : MemoryLine) : Action MemoryBank Unit := do
  match (← Action.world).entryAt line.name with
  | some entry =>
    if entry.held then Action.update (·.put line.name { entry with held := false })
    else Action.fail line.notHeld
  | none => Action.fail line.notHeld

end MemoryLine

/-- The lines of a bank as hardware. -/
def memoryHardware : Hardware MemoryBank MemoryLine where
  acquire := MemoryLine.acquire
  get := MemoryLine.get
  set := MemoryLine.set
  release := MemoryLine.release
  wait _ := pure ()
  name := MemoryLine.name
  polarity := MemoryLine.polarity

end CoprocReset
