import CoprocReset.Publisher
import CoprocReset.Target.Basic

/-!
# Attaching and detaching

A lifecycle brings a device up and takes it down again. `attach` acquires both lines, starts the
coprocessor up and only then publishes the attribute; whatever fails, it gives back what it has
and hands the failure on. `detach` takes the attribute away, forces the coprocessor into reset
and releases the lines, even if the attribute could not be taken away.

The startup runs as a task of its own. If it crashes, the task ends with the lines in its hands,
and the attachment fails; a crash anywhere else ends the lifecycle in the phase it was in.
-/

namespace CoprocReset

/-- How a device is attached and detached. -/
structure Lifecycle (W L P : Type) where
  hardware : Hardware W L
  publisher : Publisher P
  target : Target
  resetSettings : LineSettings
  bootSelectSettings : LineSettings

namespace Lifecycle

variable {W L P : Type} (lifecycle : Lifecycle W L P)

/-- The hardware as seen from the station. -/
def lines : Hardware (Station W L P) L := lifecycle.hardware.within Station.worldPart

/-- Acquires both lines, each driven high. If the second is refused, the first is given back. -/
def acquireLines : Action (Station W L P) (LinePair L) := do
  let reset ← lifecycle.lines.acquire
    (lifecycle.resetSettings.request lifecycle.target.resetLine .high)
  let bootSelect ← (lifecycle.lines.acquire
    (lifecycle.bootSelectSettings.request lifecycle.target.bootSelectLine .high)).attempt
  match bootSelect with
  | .ok bootSelect => return ⟨reset, bootSelect⟩
  | .error failure =>
    if let .error refusal ← (lifecycle.lines.release reset).attempt then
      Action.noteError
        ("Failed to release reset line after failed attach: " ++ refusal.message)
    Action.fail failure

/-- What a crash of the startup makes of the attachment. -/
def died (name : String) (message : String) : Failure :=
  .internal ("Reset sequence of " ++ name ++ " died: task N panicked with message " ++
    Text.quote message)

/-- The startup as a task of its own, with its failure handed over as a value. -/
def startUp (pair : LinePair L) : Action (Station W L P) (Except Failure Unit) :=
  Action.contain (died lifecycle.target.attributeName)
    (pair.startUp lifecycle.lines lifecycle.target.settle).attempt

/-- Takes the lines from a controller, the coprocessor held in reset, and releases them. -/
def tearDown (handle : Handle) : Action (Station W L P) Unit := do
  let pair ← Station.shutdown lifecycle.hardware handle
  pair.release lifecycle.lines

/-- The way from nothing to a published attribute. -/
def bringUp : Action (Station W L P) Handle := do
  let pair ← lifecycle.acquireLines
  if let .error failure ← lifecycle.startUp pair then
    if let .error refusal ← (pair.release lifecycle.lines).attempt then
      Action.noteError ("Failed to release lines after failed sequence: " ++ refusal.message)
    Action.fail failure
  let handle ← Station.makeController lifecycle.target.attributeName pair
  let published ← (Publisher.exec lifecycle.hardware
    (lifecycle.publisher.publish lifecycle.target.attributeName handle)).attempt
  if let .error failure := published then
    if let .error refusal ← (lifecycle.tearDown handle).attempt then
      Action.noteError ("Teardown after failed publish failed: " ++ refusal.message)
    Action.fail failure
  return handle

/-- The failure of a call in the wrong phase. -/
def outOfPhase (verb : String) (phase : Phase) : Failure :=
  .lifecycle ("Cannot " ++ verb ++ " " ++ lifecycle.target.attributeName ++ " while " ++
    phase.name)

/-- Changes the phase. -/
def setPhase (phase : Phase) : Action (Station W L P) Unit := Action.update ({ · with phase })

/-- Changes the controller of the attached device. -/
def setCurrent (current : Option Handle) : Action (Station W L P) Unit :=
  Action.update ({ · with current })

/-- Attaches the device. After a failure the device is as unattached as before. -/
def attach : Action (Station W L P) Handle := do
  let phase := (← Action.world).phase
  if phase ≠ .unattached then
    Action.fail (lifecycle.outOfPhase "attach" phase)
  else
    Action.noteInfo (lifecycle.target.attributeName ++ " attach started")
    setPhase .attaching
    match ← lifecycle.bringUp.attempt with
    | .ok handle =>
      setCurrent (some handle)
      setPhase .attached
      Action.noteInfo (lifecycle.target.attributeName ++ " attached and published")
      return handle
    | .error failure =>
      Action.noteError
        (lifecycle.target.attributeName ++ " attach failed: " ++ failure.message)
      setPhase .unattached
      Action.fail failure

variable {lifecycle} in
/-- An attachment out of turn does nothing. -/
theorem attach_refused {station : Station W L P} (h : station.phase ≠ .unattached) :
    lifecycle.attach station =
      ⟨.failed (lifecycle.outOfPhase "attach" station.phase), station, []⟩ := by
  simp [attach, Action.bind_apply, Action.andThen, Action.world, Action.fail, h]

/-- Takes the controller away from the lifecycle and tears it down. -/
def dismiss : Action (Station W L P) Unit := do
  match (← Action.world).current with
  | some handle =>
    setCurrent none
    lifecycle.tearDown handle
  | none =>
    Action.fail (.internal
      (lifecycle.target.attributeName ++ " was attached without a controller"))

/-- Detaches the device. A failure to release the lines is handed on first, then one to take the
attribute away. -/
def detach : Action (Station W L P) Unit := do
  let phase := (← Action.world).phase
  if phase ≠ .attached then
    Action.fail (lifecycle.outOfPhase "detach" phase)
  else
    Action.noteInfo (lifecycle.target.attributeName ++ " detach started")
    setPhase .detaching
    let unpublished ← (Publisher.exec lifecycle.hardware
      (lifecycle.publisher.unpublish lifecycle.target.attributeName)).attempt
    if let .error failure := unpublished then
      Action.noteError
        ("Failed to unpublish " ++ lifecycle.target.attributeName ++ ": " ++ failure.message)
    let released ← lifecycle.dismiss.attempt
    setPhase .unattached
    Action.noteInfo (lifecycle.target.attributeName ++ " detached")
    Action.ofExcept (released >>= fun () => unpublished)

variable {lifecycle} in
/-- A detachment out of turn does nothing. -/
theorem detach_refused {station : Station W L P} (h : station.phase ≠ .attached) :
    lifecycle.detach station =
      ⟨.failed (lifecycle.outOfPhase "detach" station.phase), station, []⟩ := by
  simp [detach, Action.bind_apply, Action.andThen, Action.world, Action.fail, h]

end Lifecycle

end CoprocReset
