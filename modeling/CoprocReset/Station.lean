import CoprocReset.Reset.Controller

/-!
# Stations

A station is all there is while a daemon runs: the world with the lines in it, what the publisher
keeps, every controller ever made, and how far the device is attached. A controller is known by
its handle. A handle stays good for ever, so that whoever kept one past the end of an attachment
asks the controller of that attachment and no other.

A request to one controller leaves the others alone (`device_set_controllers`).
-/

namespace CoprocReset

/-- How far a device is attached. -/
inductive Phase where
  | unattached
  | attaching
  | attached
  | detaching
  deriving DecidableEq, Repr

/-- The phase in words. -/
def Phase.name : Phase → String
  | .unattached => "Unattached"
  | .attaching => "Attaching"
  | .attached => "Attached"
  | .detaching => "Detaching"

/-- What a controller is known by: how many were made before it. -/
abbrev Handle := Nat

/-- All there is while a daemon runs. -/
structure Station (W L P : Type) where
  world : W
  publisher : P
  controllers : Handle → Controller L
  made : Nat
  phase : Phase
  /-- The controller of the attached device. -/
  current : Option Handle

namespace Station

variable {W L P α : Type}

/-- The station before anything was attached. -/
def initial (world : W) (publisher : P) : Station W L P where
  world := world
  publisher := publisher
  controllers _ := ⟨"", .vacant⟩
  made := 0
  phase := .unattached
  current := none

/-- The world as a part of the station. -/
def worldPart : Lens (Station W L P) W where
  get := world
  set world station := { station with world }

/-- What the publisher keeps as a part of the station. -/
def publisherPart : Lens (Station W L P) P where
  get := publisher
  set publisher station := { station with publisher }

/-- The table of controllers with one of them replaced. -/
def replace (controllers : Handle → Controller L) (handle : Handle) (controller : Controller L) :
    Handle → Controller L :=
  fun other => if other = handle then controller else controllers other

/-- The world and one controller as a part of the station. -/
def device (handle : Handle) : Lens (Station W L P) (W × Controller L) where
  get station := (station.world, station.controllers handle)
  set part station :=
    { station with
      world := part.1
      controllers := replace station.controllers handle part.2 }
  get_set := by intros; simp [replace]
  set_get := by
    intro station
    have : replace station.controllers handle (station.controllers handle) =
        station.controllers := by
      funext other
      by_cases h : other = handle <;> simp [replace, h]
    simp [this]
  set_set := by
    intro first second station
    have : replace (replace station.controllers handle first.2) handle second.2 =
        replace station.controllers handle second.2 := by
      funext other
      by_cases h : other = handle <;> simp [replace, h]
    simp [this]

/-- A controller is not touched by what happens to another. -/
theorem device_set_controllers {handle other : Handle} (h : other ≠ handle)
    (part : W × Controller L) (station : Station W L P) :
    ((device handle).set part station).controllers other = station.controllers other := by
  simp [device, replace, h]

/-- Makes a controller for a pair of lines. -/
def makeController (name : String) (pair : LinePair L) : Action (Station W L P) Handle :=
  fun station =>
    ⟨.done station.made,
     { station with
       controllers := replace station.controllers station.made (.ofPair name pair)
       made := station.made + 1 },
     []⟩

/-- A script on one controller. -/
def control (hw : Hardware W L) (handle : Handle) (script : String → ControllerScript L α) :
    Action (Station W L P) α := fun station =>
  (Controller.exec hw (script (station.controllers handle).name)).on (device handle) station

/-- A request to one controller. -/
def request (hw : Hardware W L) (handle : Handle) (request : Request α) :
    Action (Station W L P) α :=
  control hw handle fun name => request.script name

/-- Forces the coprocessor of a controller into reset and takes the lines away from it. -/
def shutdown (hw : Hardware W L) (handle : Handle) : Action (Station W L P) (LinePair L) :=
  control hw handle Controller.shutdown

end Station

end CoprocReset
