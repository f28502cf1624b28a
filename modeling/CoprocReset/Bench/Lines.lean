import CoprocReset.Bench.Rig
import CoprocReset.Reset.Startup

/-!
# A bench for single lines

On this bench lines lie in slots. A line that is acquired into a slot takes the place of the one
that was there; that one is lost without being released.
-/

namespace CoprocReset.Bench

/-- A rig, the lines in their slots, and the names that are of interest. -/
structure LinesBench where
  rig : Rig
  slots : List (String × MachineLine)
  names : List String

/-- What can be done on the bench. -/
inductive LinesStep where
  | acquire (slot : String) (request : LineRequest)
  | get (slot : String)
  | set (slot : String) (level : Level)
  | info (slot : String)
  | release (slot : String)
  | drop (slot : String)
  | drive (resetSlot bootSelectSlot : String) (command : Command)
  | startUp (resetSlot bootSelectSlot : String) (window : SettleWindow)
  | disturb (disturbance : Disturbance)

namespace LinesBench

/-- The bench before anything was acquired. -/
def ofRig (rig : Rig) : LinesBench := ⟨rig, [], []⟩

/-- The rig as a part of the bench. -/
def rigPart : Lens LinesBench Rig where
  get := rig
  set rig bench := { bench with rig }

/-- Adds names to those of interest. -/
def watch (names : List String) : Action LinesBench Unit :=
  Action.update fun bench => { bench with names := names.foldl addName bench.names }

/-- Empties a slot. -/
def clear (slot : String) : Action LinesBench Unit :=
  Action.update fun bench => { bench with slots := Assoc.erase slot bench.slots }

/-- The answer if there is no line to work with. -/
def slotIsEmpty : Answer := .refused "slot is empty"

/-- Works with the line in a slot. -/
def withLine (slot : String) (work : MachineLine → Action LinesBench Answer) :
    Action LinesBench Answer := do
  match (← Action.world).slots.lookup slot with
  | some line => work line
  | none => return slotIsEmpty

/-- Works with the lines in two slots. -/
def withPair (resetSlot bootSelectSlot : String)
    (work : LinePair MachineLine → Action LinesBench Unit) : Action LinesBench Answer :=
  if resetSlot = bootSelectSlot then return slotIsEmpty
  else
    withLine resetSlot fun reset => withLine bootSelectSlot fun bootSelect => do
      work ⟨reset, bootSelect⟩
      return .nothing

/-- A step on the bench. -/
def step (hw : Hardware Rig MachineLine) : LinesStep → Action LinesBench Answer
  | .acquire slot request => do
    watch [request.name]
    let line ← (hw.acquire request).on rigPart
    Action.update fun bench => { bench with slots := Assoc.insert slot line bench.slots }
    return .nothing
  | .get slot => withLine slot fun line => do return .level (← (hw.get line).on rigPart)
  | .set slot level => withLine slot fun line => do
    (hw.set line level).on rigPart
    return .nothing
  | .info slot => withLine slot fun line => return .wiring (hw.name line) (hw.polarity line)
  | .release slot => withLine slot fun line => do
    clear slot
    (hw.release line).on rigPart
    return .nothing
  | .drop slot => withLine slot fun _ => do
    clear slot
    return .nothing
  | .drive resetSlot bootSelectSlot command =>
    withPair resetSlot bootSelectSlot fun pair => (hw.exec (pair.drive command)).on rigPart
  | .startUp resetSlot bootSelectSlot window =>
    withPair resetSlot bootSelectSlot fun pair => (pair.startUp hw window).on rigPart
  | .disturb disturbance => do
    watch disturbance.names
    disturbance.strike.on rigPart
    return .nothing

end LinesBench

end CoprocReset.Bench
