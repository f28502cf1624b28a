import CoprocReset.Lifecycle
import CoprocReset.Proofs.Station

/-!
# The calls of a lifecycle

A lifecycle as a script: every call that it makes itself on the hardware and on its publisher stands
alone, and in between it only keeps its books. So the calls of a lifecycle can be told from those
that others make on the same lines, a publisher among them. On hardware that does not crash the
scripts are the lifecycle (`exec_attach`, `exec_detach`).
-/

namespace CoprocReset

theorem LinePair.calm_startUp {W L : Type} {hw : Hardware W L} (h : hw.Calm)
    (pair : LinePair L) (window : SettleWindow) : (pair.startUp hw window).Calm := by
  simp only [LinePair.startUp, SettleWindow.wait, Action.noteInfo]
  refine (Action.calm_note _ _).bind fun _ => (Action.calm_note _ _).bind fun _ => ?_
  refine (h.exec _).bind fun _ => (Action.calm_note _ _).bind fun _ => ?_
  refine ((h.wait _).bind fun _ => Action.calm_pure _).bind fun _ => ?_
  refine (Action.calm_note _ _).bind fun _ => (h.exec _).bind fun _ => Action.calm_note _ _

/-- What a lifecycle can do, by the type of the answer: a call on the hardware or on the publisher,
or something with its books. -/
inductive LifecycleCall (L : Type) : Type → Type 1 where
  | acquire (request : LineRequest) : LifecycleCall L L
  | set (line : L) (level : Level) : LifecycleCall L Unit
  | wait (ms : Nat) : LifecycleCall L Unit
  | release (line : L) : LifecycleCall L Unit
  | publish (handle : Handle) : LifecycleCall L Unit
  | unpublish : LifecycleCall L Unit
  | keep {α : Type} (action : Action (Books L) α) : LifecycleCall L α

/-- A script of a lifecycle. -/
abbrev LifecycleScript (L α : Type) := Script Failure (LifecycleCall L) α

namespace Books

variable {L : Type}

/-- Makes a controller for a pair of lines. -/
def makeController (name : String) (pair : LinePair L) : Action (Books L) Handle := fun books =>
  ⟨.done books.made,
   { books with
     controllers := Station.replace books.controllers books.made (.ofPair name pair)
     made := books.made + 1 },
   []⟩

/-- Takes the lines from a controller. Says under what name it had them. -/
def takePair (handle : Handle) : Action (Books L) (String × LinePair L) := fun books =>
  let controller := books.controllers handle
  match controller.custody with
  | .poisoned => ⟨.failed controller.lockPoisoned, books, []⟩
  | .vacant => ⟨.failed controller.notReady, books, []⟩
  | .holding pair =>
    ⟨.done (controller.name, pair),
     { books with
       controllers :=
        Station.replace books.controllers handle { controller with custody := .vacant } },
     []⟩

end Books

namespace Lifecycle

variable {W L P : Type} (lifecycle : Lifecycle W L P)

/-- The request for the reset line. -/
def resetRequest : LineRequest :=
  lifecycle.resetSettings.request lifecycle.target.resetLine .high

/-- The request for the boot-select line. -/
def bootSelectRequest : LineRequest :=
  lifecycle.bootSelectSettings.request lifecycle.target.bootSelectLine .high

/-- The action that a call stands for. -/
def carryOut {α : Type} : LifecycleCall L α → Action (Station W L P) α
  | .acquire request => lifecycle.lines.acquire request
  | .set line level => lifecycle.lines.set line level
  | .wait ms => lifecycle.lines.wait ms
  | .release line => lifecycle.lines.release line
  | .publish handle =>
    Publisher.exec lifecycle.hardware
      (lifecycle.publisher.publish lifecycle.target.attributeName handle)
  | .unpublish =>
    Publisher.exec lifecycle.hardware
      (lifecycle.publisher.unpublish lifecycle.target.attributeName)
  | .keep action => action.on Station.booksPart

namespace Scripted

/-! ## The scripts -/

/-- Something with the books. -/
def keep {α : Type} (action : Action (Books L) α) : LifecycleScript L α :=
  Script.ask (.keep action)

/-- An entry in the log. -/
def note (severity : Severity) (text : String) : LifecycleScript L Unit :=
  keep (Action.note severity text)

/-- Changes the phase. -/
def setPhase (phase : Phase) : LifecycleScript L Unit := keep (Action.update ({ · with phase }))

/-- Changes the controller of the attached device. -/
def setCurrent (current : Option Handle) : LifecycleScript L Unit :=
  keep (Action.update ({ · with current }))

/-- Drives both lines to the levels of a command. -/
def drive (pair : LinePair L) (command : Command) : LifecycleScript L Unit := do
  Script.ask (.set pair.reset command.resetLevel)
  Script.ask (.set pair.bootSelect command.bootSelectLevel)

/-- Releases both lines. -/
def release (pair : LinePair L) : LifecycleScript L Unit := do
  let reset ← (Script.ask (.release pair.reset)).attempt
  let bootSelect ← (Script.ask (.release pair.bootSelect)).attempt
  if let .error failure := bootSelect then
    note .error ("Failed to release boot-select line: " ++ failure.message)
  Script.finish (reset >>= fun () => bootSelect)

/-- Acquires both lines. -/
def acquireLines : LifecycleScript L (LinePair L) := do
  let reset ← Script.ask (.acquire lifecycle.resetRequest)
  let bootSelect ← (Script.ask (.acquire lifecycle.bootSelectRequest)).attempt
  match bootSelect with
  | .ok bootSelect => return ⟨reset, bootSelect⟩
  | .error failure =>
    if let .error refusal ← (Script.ask (.release reset)).attempt then
      note .error ("Failed to release reset line after failed attach: " ++ refusal.message)
    Script.fail failure

/-- Resets the coprocessor and lets it run. -/
def startUp (pair : LinePair L) : LifecycleScript L Unit := do
  note .info "Reset sequence started"
  note .info " (0) reset 0, boot-select 1"
  drive pair .hold
  note .info (" (1) wait ~" ++ toString lifecycle.target.settle.least ++ " ms")
  Script.ask (.wait lifecycle.target.settle.least)
  note .info " (2) reset 1, boot-select 0"
  drive pair .release
  note .info "Reset sequence finished, device can now be used"

/-- Takes the lines from a controller and forces the coprocessor into reset. -/
def shutdown (handle : Handle) : LifecycleScript L (LinePair L) := do
  let (name, pair) ← keep (Books.takePair handle)
  if let .error failure ← (drive pair .hold).attempt then
    note .error ("Failed to force " ++ name ++ " into reset: " ++ failure.message)
  note .info (name ++ " is now under reset and cannot be used")
  return pair

/-- Takes the lines from a controller, the coprocessor held in reset, and releases them. -/
def tearDown (handle : Handle) : LifecycleScript L Unit := do
  let pair ← shutdown handle
  release pair

/-- The way from nothing to a published attribute. -/
def bringUp : LifecycleScript L Handle := do
  let pair ← acquireLines lifecycle
  if let .error failure ← (startUp lifecycle pair).attempt then
    if let .error refusal ← (release pair).attempt then
      note .error ("Failed to release lines after failed sequence: " ++ refusal.message)
    Script.fail failure
  let handle ← keep (Books.makeController lifecycle.target.attributeName pair)
  if let .error failure ← (Script.ask (.publish handle)).attempt then
    if let .error refusal ← (tearDown handle).attempt then
      note .error ("Teardown after failed publish failed: " ++ refusal.message)
    Script.fail failure
  return handle

/-- Attaches the device. -/
def attach : LifecycleScript L Handle := do
  let phase := (← keep Action.world).phase
  if phase ≠ .unattached then
    Script.fail (lifecycle.outOfPhase "attach" phase)
  else
    note .info (lifecycle.target.attributeName ++ " attach started")
    setPhase .attaching
    match ← (bringUp lifecycle).attempt with
    | .ok handle =>
      setCurrent (some handle)
      setPhase .attached
      note .info (lifecycle.target.attributeName ++ " attached and published")
      return handle
    | .error failure =>
      note .error (lifecycle.target.attributeName ++ " attach failed: " ++ failure.message)
      setPhase .unattached
      Script.fail failure

/-- Takes the controller away from the lifecycle and tears it down. -/
def dismiss : LifecycleScript L Unit := do
  match (← keep Action.world).current with
  | some handle =>
    setCurrent none
    tearDown handle
  | none =>
    Script.fail (.internal
      (lifecycle.target.attributeName ++ " was attached without a controller"))

/-- Detaches the device. -/
def detach : LifecycleScript L Unit := do
  let phase := (← keep Action.world).phase
  if phase ≠ .attached then
    Script.fail (lifecycle.outOfPhase "detach" phase)
  else
    note .info (lifecycle.target.attributeName ++ " detach started")
    setPhase .detaching
    let unpublished ← (Script.ask .unpublish).attempt
    if let .error failure := unpublished then
      note .error
        ("Failed to unpublish " ++ lifecycle.target.attributeName ++ ": " ++ failure.message)
    let released ← (dismiss lifecycle).attempt
    setPhase .unattached
    note .info (lifecycle.target.attributeName ++ " detached")
    Script.finish (released >>= fun () => unpublished)

/-! ## The scripts are the lifecycle -/

@[simp] theorem exec_note (severity : Severity) (text : String) :
    (note severity text).exec lifecycle.carryOut = Action.note severity text := by
  simp only [note, keep, Script.exec_ask, carryOut]
  rfl

@[simp] theorem exec_setPhase (phase : Phase) :
    (setPhase phase).exec lifecycle.carryOut = Lifecycle.setPhase phase := by
  simp only [setPhase, keep, Script.exec_ask, carryOut]
  rfl

@[simp] theorem exec_setCurrent (current : Option Handle) :
    (setCurrent current).exec lifecycle.carryOut = Lifecycle.setCurrent current := by
  simp only [setCurrent, keep, Script.exec_ask, carryOut]
  rfl

@[simp] theorem exec_drive (pair : LinePair L) (command : Command) :
    (drive pair command).exec lifecycle.carryOut = lifecycle.lines.exec (pair.drive command) := by
  simp only [drive, LinePair.drive, Hardware.exec, Script.exec_bind, Script.exec_ask, carryOut,
    Hardware.perform]

@[simp] theorem exec_release (pair : LinePair L) :
    (release pair).exec lifecycle.carryOut = pair.release lifecycle.lines := by
  simp only [release, LinePair.release, Script.exec_bind, Script.exec_attempt, Script.exec_ask,
    carryOut]
  refine bind_congr fun reset => bind_congr fun bootSelect => ?_
  cases bootSelect <;> simp [Script.exec_bind, Action.noteError]

@[simp] theorem exec_acquireLines :
    (acquireLines lifecycle).exec lifecycle.carryOut = lifecycle.acquireLines := by
  simp only [acquireLines, Lifecycle.acquireLines, Script.exec_bind, Script.exec_attempt,
    Script.exec_ask, carryOut]
  refine bind_congr fun reset => bind_congr fun bootSelect => ?_
  cases bootSelect with
  | ok bootSelect => rfl
  | error failure =>
    simp only [Script.exec_bind, Script.exec_attempt, Script.exec_ask, carryOut]
    refine bind_congr fun refusal => ?_
    cases refusal <;> simp [Script.exec_bind, Action.noteError]

@[simp] theorem exec_startUp (pair : LinePair L) :
    (startUp lifecycle pair).exec lifecycle.carryOut =
      pair.startUp lifecycle.lines lifecycle.target.settle := by
  simp only [startUp, LinePair.startUp, SettleWindow.wait, Script.exec_bind, exec_note, exec_drive,
    Script.exec_ask, carryOut, Action.noteInfo, bind_assoc, pure_bind]

variable {lifecycle} (hcalm : lifecycle.hardware.Calm)
include hcalm

theorem startUp_eq (pair : LinePair L) :
    lifecycle.startUp pair = (pair.startUp lifecycle.lines lifecycle.target.settle).attempt := by
  have hlines : lifecycle.lines.Calm := hcalm.within _
  exact (pair.calm_startUp hlines _).attempt.contain_eq _

omit hcalm in
/-- A stay that takes the lines away, by what comes of forcing the coprocessor into reset. -/
theorem enter_surrender {hw : Hardware W L} {name : String} {pair : LinePair L} {world later : W}
    {result : Except Failure Unit} {log : Log}
    (hdrive : hw.exec (pair.drive .hold) world = ⟨.ofExcept result, later, log⟩) :
    Controller.enter hw .surrender (world, ⟨name, .holding pair⟩) =
      ⟨.done (pair, result), (later, ⟨name, .vacant⟩), log⟩ := by
  have hroutine : hw.exec (Section.surrender.routine pair) world =
      ⟨.done (pair, result), later, log⟩ := by
    simp only [Section.routine, Hardware.exec, Script.exec_bind, Script.exec_attempt]
    simp only [Hardware.exec] at hdrive
    cases result <;>
      simp [Action.bind_apply, Action.andThen, Action.attempt, hdrive, Outcome.ofExcept]
  simp [Controller.enter, hroutine, Section.custodyAfter, Section.keepsLines]

theorem exec_shutdown (handle : Handle) :
    (shutdown handle).exec lifecycle.carryOut = Station.shutdown lifecycle.hardware handle := by
  funext station
  simp only [shutdown, keep, Script.exec_bind, Script.exec_attempt, Script.exec_ask, exec_drive,
    carryOut, Station.shutdown, Station.control, Controller.shutdown, Controller.exec,
    Controller.inside, Controller.perform, Lifecycle.lines, Hardware.exec_within]
  have hself := Station.replace_self station.controllers handle
  rcases hcontroller : station.controllers handle with ⟨name, pair | _ | _⟩
  case holding =>
    obtain ⟨result, later, log, hdrive⟩ :=
      (hcalm.exec (pair.drive .hold)).result station.world
    have htake : (Books.takePair handle).on Station.booksPart station =
        ⟨.done (name, pair),
         { station with
           controllers := Station.replace station.controllers handle ⟨name, .vacant⟩ }, []⟩ := by
      simp [Action.on, Station.booksPart, Books.takePair, hcontroller]
    have henter : (Controller.enter lifecycle.hardware .surrender).on (Station.device handle)
          station =
        ⟨.done (pair, result),
         { station with
           world := later
           controllers := Station.replace station.controllers handle ⟨name, .vacant⟩ }, log⟩ := by
      simp [Action.on, Station.device, hcontroller, enter_surrender hdrive]
    have hforce : ((lifecycle.hardware.exec (pair.drive .hold)).on Station.worldPart).attempt
          { station with
            controllers := Station.replace station.controllers handle ⟨name, .vacant⟩ } =
        ⟨.done result,
         { station with
           world := later
           controllers := Station.replace station.controllers handle ⟨name, .vacant⟩ }, log⟩ := by
      cases result <;>
        simp [Action.attempt, Action.on, Station.worldPart, hdrive, Outcome.ofExcept]
    rw [Action.bind_on, Action.bind_done htake, Action.bind_done hforce, Action.bind_done henter]
    cases result <;>
      simp only [Script.exec_bind, Script.exec_pure, Script.exec_ask, exec_note, Controller.note,
        Controller.perform, Action.bind_on, Action.note_on, Action.pure_on, List.nil_append]
  case vacant =>
    rw [hcontroller] at hself
    simp [Action.bind_apply, Action.andThen, Action.on, Station.booksPart, Books.takePair,
      hcontroller, Controller.enter, Station.device, hself, Controller.notReady]
  case poisoned =>
    rw [hcontroller] at hself
    simp [Action.bind_apply, Action.andThen, Action.on, Station.booksPart, Books.takePair,
      hcontroller, Controller.enter, Station.device, hself, Controller.lockPoisoned]

theorem exec_tearDown (handle : Handle) :
    (tearDown handle).exec lifecycle.carryOut = lifecycle.tearDown handle := by
  simp only [tearDown, Lifecycle.tearDown, Script.exec_bind, exec_shutdown hcalm, exec_release]

omit hcalm in
theorem exec_makeController (name : String) (pair : LinePair L) :
    (keep (Books.makeController name pair)).exec lifecycle.carryOut =
      Station.makeController name pair := by
  simp only [keep, Script.exec_ask, carryOut]
  rfl

theorem exec_bringUp :
    (bringUp lifecycle).exec lifecycle.carryOut = lifecycle.bringUp := by
  simp only [bringUp, Lifecycle.bringUp, Script.exec_bind, exec_acquireLines, Script.exec_attempt,
    exec_startUp, startUp_eq hcalm]
  refine bind_congr fun pair => bind_congr fun started => ?_
  cases started with
  | error failure =>
    simp only [Script.exec_bind, Script.exec_attempt, exec_release]
    refine bind_congr fun refusal => ?_
    cases refusal <;>
      simp only [Script.exec_bind, exec_note, Script.exec_fail, Script.fail_bind, Action.fail_bind,
        Action.noteError]
  | ok _ =>
    simp only [Script.exec_bind, exec_makeController, Script.exec_ask, Script.exec_attempt,
      carryOut]
    refine bind_congr fun handle => bind_congr fun published => ?_
    cases published with
    | error failure =>
      simp only [Script.exec_bind, Script.exec_attempt, exec_tearDown hcalm]
      refine bind_congr fun refusal => ?_
      cases refusal <;>
        simp only [Script.exec_bind, exec_note, Script.exec_fail, Script.fail_bind,
          Action.fail_bind, Action.noteError]
    | ok _ => rfl

omit hcalm in
theorem exec_look {β : Type} (next : Books L → LifecycleScript L β) :
    (keep Action.world >>= next).exec lifecycle.carryOut =
      Action.world >>= fun station => (next station.books).exec lifecycle.carryOut := by
  simp only [Script.exec_bind, keep, Script.exec_ask, carryOut]
  rfl

theorem exec_attach :
    (attach lifecycle).exec lifecycle.carryOut = lifecycle.attach := by
  rw [attach, Lifecycle.attach, exec_look]
  refine bind_congr fun station => ?_
  simp only [apply_ite (Script.exec _), Script.exec_bind, Script.exec_attempt, Script.exec_fail,
    exec_note, exec_setPhase, exec_bringUp hcalm]
  congr 1
  refine bind_congr fun _ => bind_congr fun _ => bind_congr fun handle => ?_
  cases handle <;>
    simp only [Script.exec_bind, exec_note, exec_setPhase, exec_setCurrent, Script.exec_fail,
      Script.exec_pure, Action.noteError, Action.noteInfo]

theorem exec_dismiss :
    (dismiss lifecycle).exec lifecycle.carryOut = lifecycle.dismiss := by
  rw [dismiss, Lifecycle.dismiss, exec_look]
  refine bind_congr fun station => ?_
  rcases hcurrent : station.current with _ | handle
  · simp [hcurrent, Station.books, Station.booksPart]
  · simp [hcurrent, Station.books, Station.booksPart, Script.exec_bind, exec_tearDown hcalm]

theorem exec_detach :
    (detach lifecycle).exec lifecycle.carryOut = lifecycle.detach := by
  rw [detach, Lifecycle.detach, exec_look]
  refine bind_congr fun station => ?_
  simp only [apply_ite (Script.exec _), Script.exec_bind, Script.exec_attempt, Script.exec_fail,
    Script.exec_ask, exec_note, exec_setPhase, carryOut]
  congr 1
  refine bind_congr fun _ => bind_congr fun _ => bind_congr fun unpublished => ?_
  cases unpublished <;>
    simp only [Script.exec_bind, Script.exec_attempt, exec_note, exec_setPhase, exec_dismiss hcalm,
      Script.exec_finish, Action.noteError, Action.noteInfo]

end Scripted

end Lifecycle

end CoprocReset
