import CoprocReset.Bench.Board
import CoprocReset.Bench.Device
import CoprocReset.Bus.Objects
import CoprocReset.Lifecycle

/-!
# A bench for attachments

On this bench a device is attached and detached while others look at its attribute, take its lines
away and meddle with its publisher. What others can do depends on the publisher: `boardVenue` and
`busVenue` say what a look, a write and each way of meddling comes to.
-/

namespace CoprocReset.Bench

/-- How others meddle with a publisher. -/
inductive Meddling where
  | failPublish (on : Bool)
  | failUnpublish (on : Bool)
  /-- Puts another device's attribute at the path of a name. -/
  | occupy (attributeName : String)
  /-- Puts an unrelated interface beside the attribute. -/
  | addNeighbour (attributeName : String)
  /-- Takes the attribute away. -/
  | vacate (attributeName : String)

/-- A publisher and what others can do with it. -/
structure Venue (P : Type) where
  publisher : Publisher P
  read (hw : Hardware Rig MachineLine) (attributeName : String) :
    Action (Station Rig MachineLine P) Answer
  write (hw : Hardware Rig MachineLine) (attributeName data : String) :
    Action (Station Rig MachineLine P) Answer
  meddle : Meddling → Action P Answer
  /-- Whether the attribute can be reached. -/
  reaches (publisher : P) (attributeName : String) : Bool
  /-- What was recorded, and the publisher with a blank record. -/
  takeNotices (publisher : P) : List Notice × P

/-- The answer if the publisher cannot be meddled with in that way. -/
def otherPublisher : Answer := .refused "publisher"

/-! ## The notice board -/

/-- A request to the controller of an attribute on the board. -/
def askBoard {α : Type} (hw : Hardware Rig MachineLine) (attributeName : String)
    (request : Request α) : Action (Station Rig MachineLine Board) α := do
  match (← Action.world).publisher.entries.lookup attributeName with
  | some handle => Station.request hw handle request
  | none => Action.fail (.argument ("no such attribute " ++ attributeName))

/-- Meddles with the board. -/
def meddleWithBoard : Meddling → Action Board Answer
  | .failPublish on => do
    Action.update fun board => { board with failsToPublish := on }
    return .nothing
  | .failUnpublish on => do
    Action.update fun board => { board with failsToUnpublish := on }
    return .nothing
  | _ => return otherPublisher

/-- The notice board. -/
def boardVenue : Venue Board where
  publisher := boardPublisher
  read hw attributeName := do return .text (← askBoard hw attributeName .content)
  write hw attributeName data := do return .number (← askBoard hw attributeName (.store data))
  meddle := meddleWithBoard
  reaches board attributeName := (board.entries.lookup attributeName).isSome
  takeNotices board := (board.notices, { board with notices := [] })

/-! ## The bus -/

/-- Another device that runs. -/
def stranger : Bus.Server :=
  .stranger
    { MemoryBank.empty with
      lines := [("reset-line", ⟨.high, .activeHigh, true⟩),
        ("boot-select-line", ⟨.low, .activeHigh, true⟩)] }
    (.ofPair "x8h7_reset" ⟨⟨"reset-line", .activeHigh⟩, ⟨"boot-select-line", .activeHigh⟩⟩)

/-- Puts a changed table in place and answers whether there was something to add. -/
def putTable (result : Bool × Bus.ObjectTable) : Action Bus.ObjectTable Answer := do
  Action.update fun _ => result.2
  return .truth result.1

/-- Changes the table at the path of a name. -/
def changeAt (attributeName : String)
    (change : Bus.ObjectTable → String → Except BusError (Bool × Bus.ObjectTable)) :
    Action Bus.ObjectTable Answer := do
  match Bus.requestPath attributeName >>= change (← Action.world) with
  | .ok result => putTable result
  | .error error => return .declined error

/-- Meddles with the objects on the bus. -/
def meddleWithBus : Meddling → Action Bus.ObjectTable Answer
  | .occupy attributeName =>
    changeAt attributeName fun table path => .ok (table.serve path stranger)
  | .addNeighbour attributeName =>
    changeAt attributeName fun table path => .ok (table.addNeighbour path)
  | .vacate attributeName => changeAt attributeName Bus.ObjectTable.vacate
  | _ => return otherPublisher

/-- The bus. -/
def busVenue : Venue Bus.ObjectTable where
  publisher := Bus.busPublisher
  read hw attributeName := do
    return .ofBus .text (← Bus.request hw attributeName .read)
  write hw attributeName data := do
    return .ofBus .number (← Bus.request hw attributeName (.write data))
  meddle := meddleWithBus
  reaches table attributeName := (table.object (Bus.pathOf attributeName)).server.isSome
  takeNotices table := ([], table)

/-! ## Steps -/

/-- What can be done on the bench. -/
inductive AttachmentStep where
  | attach
  | detach
  | read (attributeName : String)
  | write (attributeName data : String)
  /-- Acquires a line from outside and keeps it. -/
  | grab (request : LineRequest)
  /-- Releases a line that was grabbed. -/
  | letGo (name : String)
  | meddle (meddling : Meddling)
  | device (step : DeviceStep)
  | disturb (disturbance : Disturbance)

namespace DeviceBench

variable {P : Type}

/-- What the publisher keeps, as a part of the bench. -/
def publisherPart : Lens (DeviceBench P) P := stationPart.comp Station.publisherPart

/-- The bench before a device is attached whose lines are of interest. -/
def forAttachment (rig : Rig) (publisher : P) (target : Target) : DeviceBench P :=
  { ofRig rig publisher with names := addName [target.resetLine] target.bootSelectLine }

/-- A step on the bench. -/
def attachmentStep (lifecycle : Lifecycle Rig MachineLine P) (venue : Venue P) :
    AttachmentStep → Action (DeviceBench P) Answer
  | .attach => do
    remember (← lifecycle.attach.on stationPart)
    return .nothing
  | .detach => do
    lifecycle.detach.on stationPart
    return .nothing
  | .read attributeName => (venue.read lifecycle.hardware attributeName).on stationPart
  | .write attributeName data => (venue.write lifecycle.hardware attributeName data).on stationPart
  | .grab request => do
    let line ← (lifecycle.hardware.acquire request).on rigPart
    watch [request.name]
    Action.update fun bench =>
      { bench with grabbed := Assoc.insert request.name line bench.grabbed }
    return .nothing
  | .letGo name => do
    match (← Action.world).grabbed.lookup name with
    | some line =>
      Action.update fun bench => { bench with grabbed := Assoc.erase name bench.grabbed }
      (lifecycle.hardware.release line).on rigPart
      return .nothing
    | none => return .refused "not grabbed"
  | .meddle meddling => (venue.meddle meddling).on publisherPart
  | .device step => DeviceBench.step lifecycle.hardware step
  | .disturb disturbance => disturb disturbance

/-- The lifecycle of a target on the rig, with the publisher of a venue. -/
def lifecycleOf (hw : Hardware Rig MachineLine) (venue : Venue P) (target : Target)
    (resetSettings bootSelectSettings : LineSettings) : Lifecycle Rig MachineLine P :=
  ⟨hw, venue.publisher, target, resetSettings, bootSelectSettings⟩

end DeviceBench

end CoprocReset.Bench
