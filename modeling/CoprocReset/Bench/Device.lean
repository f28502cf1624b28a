import CoprocReset.Bench.Rig
import CoprocReset.Station

/-!
# A bench for devices

On this bench there is a station, one of its controllers that someone remembers, and a pair of
lines that someone may have in hand. The controller is asked and shut down, the pair in hand is
driven and released, by whoever remembers and holds them.
-/

namespace CoprocReset.Bench

/-- A station on a rig, and what is remembered and held beside it. -/
structure DeviceBench (P : Type) where
  station : Station Rig MachineLine P
  remembered : Option Handle
  hand : Option (LinePair MachineLine)
  grabbed : List (String × MachineLine)
  names : List String

/-- What can be done with the remembered controller and the pair in hand. -/
inductive DeviceStep where
  | name
  | read
  | content
  | store (data : String)
  | write (command : Command)
  | shutdown
  | classifyPair
  | drivePair (command : Command)
  | releasePair
  /-- Makes a new controller, which is remembered, from the pair in hand. -/
  | renew (name : String)
  /-- Stores both commands in turn, with a look after each. -/
  | race (writes : Nat)

namespace DeviceBench

variable {P α : Type}

/-- The bench before anything happened on it. -/
def ofRig (rig : Rig) (publisher : P) : DeviceBench P :=
  ⟨.initial rig publisher, none, none, [], []⟩

/-- The station as a part of the bench. -/
def stationPart : Lens (DeviceBench P) (Station Rig MachineLine P) where
  get := station
  set station bench := { bench with station }

/-- The rig as a part of the bench. -/
def rigPart : Lens (DeviceBench P) Rig := stationPart.comp Station.worldPart

/-- Adds names to those of interest. -/
def watch (names : List String) : Action (DeviceBench P) Unit :=
  Action.update fun bench => { bench with names := names.foldl addName bench.names }

/-- Remembers a controller. -/
def remember (handle : Handle) : Action (DeviceBench P) Unit :=
  Action.update fun bench => { bench with remembered := some handle }

/-- Changes what is in hand. -/
def hold (hand : Option (LinePair MachineLine)) : Action (DeviceBench P) Unit :=
  Action.update fun bench => { bench with hand }

/-- Works with the remembered controller. -/
def withController (work : Handle → Action (DeviceBench P) Answer) :
    Action (DeviceBench P) Answer := do
  match (← Action.world).remembered with
  | some handle => work handle
  | none => return .refused "nothing was ever attached"

/-- Works with the pair in hand. -/
def withPair (work : LinePair MachineLine → Action (DeviceBench P) Answer) :
    Action (DeviceBench P) Answer := do
  match (← Action.world).hand with
  | some pair => work pair
  | none => return .refused "no pair"

/-- A request to a controller on the bench. -/
def ask (hw : Hardware Rig MachineLine) (handle : Handle) (request : Request α) :
    Action (DeviceBench P) α :=
  (Station.request hw handle request).on stationPart

/-- The text that the given write of a race stores. -/
def raceText (number : Nat) : String := if number % 2 = 0 then "0" else "1"

/-- The writes of a race from the given one on, each followed by a look at the attribute. Says
whether all writes came through, and whether a look was unclear. -/
def raceFrom (hw : Hardware Rig MachineLine) (handle : Handle) (number : Nat) :
    Nat → Action (DeviceBench P) (Bool × Bool)
  | 0 => return (true, false)
  | writes + 1 => do
    let stored ← (ask hw handle (.store (raceText number))).attempt
    let shown ← (ask hw handle .read).attempt
    let (allStored, unclear) ← raceFrom hw handle (number + 1) writes
    return (stored.isOk && allStored, shown.toOption = some .indeterminate || unclear)

/-- The action without its log. -/
def silent (action : Action (DeviceBench P) α) : Action (DeviceBench P) α := fun bench =>
  { action bench with log := [] }

/-- A step with the remembered controller. -/
def step (hw : Hardware Rig MachineLine) : DeviceStep → Action (DeviceBench P) Answer
  | .name => withController fun handle => do
    return .text ((← Action.world).station.controllers handle).name
  | .read => withController fun handle => do return .text (← ask hw handle .read).name
  | .content => withController fun handle => do return .text (← ask hw handle .content)
  | .store data => withController fun handle => do
    return .number (← ask hw handle (.store data))
  | .write command => withController fun handle => do
    ask hw handle (.write command)
    return .nothing
  | .shutdown => withController fun handle => do
    let pair ← (Station.shutdown hw handle).on stationPart
    hold (some pair)
    return .nothing
  | .classifyPair => withController fun _ => withPair fun pair => do
    return .text (← (hw.exec pair.classify).on rigPart).name
  | .drivePair command => withController fun _ => withPair fun pair => do
    (hw.exec (pair.drive command)).on rigPart
    return .nothing
  | .releasePair => withController fun _ => withPair fun pair => do
    hold none
    (pair.release hw).on rigPart
    return .nothing
  | .renew name => withController fun _ => withPair fun pair => do
    hold none
    remember (← (Station.makeController name pair).on stationPart)
    return .nothing
  | .race writes => withController fun handle => do
    let (stored, unclear) ← silent (raceFrom hw handle 0 writes)
    return .race stored unclear

/-- Brings a pair of lines and a controller of it onto the bench. -/
def construct (hw : Hardware Rig MachineLine) (name : String)
    (resetRequest bootSelectRequest : LineRequest) : Action (DeviceBench P) Answer := do
  watch [resetRequest.name, bootSelectRequest.name]
  let reset ← (hw.acquire resetRequest).on rigPart
  let bootSelect ← (hw.acquire bootSelectRequest).on rigPart
  remember (← (Station.makeController name ⟨reset, bootSelect⟩).on stationPart)
  return .nothing

/-- A disturbance of the rig. -/
def disturb (disturbance : Disturbance) : Action (DeviceBench P) Answer := do
  watch disturbance.names
  disturbance.strike.on rigPart
  return .nothing

end DeviceBench

end CoprocReset.Bench
