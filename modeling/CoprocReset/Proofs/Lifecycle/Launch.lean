import CoprocReset.Proofs.Lifecycle.Calls
import CoprocReset.Proofs.Publisher

/-!
# What an attachment leaves behind

An attachment launches a controller, which nobody knows of yet, and announces it (`bringUp_eq`).
`yields_launch` says what has happened when there is a controller: both lines were acquired, one
after the other, and the last thing that was done with them was to release the coprocessor. `of_attach`
says what has happened after a whole attachment that did not fail. All of this holds on any hardware
and with any publisher; with a publisher that only looks, the lines are still where the launch left
them (`of_attach_looks`).
-/

namespace CoprocReset

namespace Lifecycle

variable {W L P : Type}

section Parts

variable (lifecycle : Lifecycle W L P)

/-- The way to a controller that nobody knows of yet. -/
def launch : Action (Station W L P) Handle := do
  let pair ← lifecycle.acquireLines
  if let .error failure ← lifecycle.startUp pair then
    if let .error refusal ← (pair.release lifecycle.lines).attempt then
      Action.noteError ("Failed to release lines after failed sequence: " ++ refusal.message)
    Action.fail failure
  Station.makeController lifecycle.target.attributeName pair

/-- Makes a controller known. If that fails, it is torn down again. -/
def announce (handle : Handle) : Action (Station W L P) Handle := do
  let published ← (Publisher.exec lifecycle.hardware
    (lifecycle.publisher.publish lifecycle.target.attributeName handle)).attempt
  if let .error failure := published then
    if let .error refusal ← (lifecycle.tearDown handle).attempt then
      Action.noteError ("Teardown after failed publish failed: " ++ refusal.message)
    Action.fail failure
  return handle

theorem bringUp_eq : lifecycle.bringUp = lifecycle.launch >>= lifecycle.announce := by
  simp only [bringUp, launch, bind_assoc]
  refine bind_congr fun pair => bind_congr fun started => ?_
  cases started with
  | ok _ => rfl
  | error failure =>
    simp only [bind_assoc]
    refine bind_congr fun released => ?_
    cases released <;> rfl

/-- The lines of the pair are acquired in a world, one after the other. -/
structure Acquires (pair : LinePair L) (world : W) : Prop where
  reset : (lifecycle.hardware.acquire lifecycle.resetRequest world).outcome = .done pair.reset
  bootSelect : (lifecycle.hardware.acquire lifecycle.bootSelectRequest
    (lifecycle.hardware.acquire lifecycle.resetRequest world).world).outcome =
      .done pair.bootSelect

/-- The controller of that handle was made for lines that were acquired in the world of the first
station, and their coprocessor was released after that. -/
def Launched (station : Station W L P) (handle : Handle) (later : Station W L P) : Prop :=
  ∃ pair before, lifecycle.Acquires pair station.world ∧
    (lifecycle.hardware.exec (pair.drive .release) before).outcome = .done () ∧
    handle = station.made ∧
    later =
      { station with
        world := (lifecycle.hardware.exec (pair.drive .release) before).world
        controllers := Station.replace station.controllers station.made
          (.ofPair lifecycle.target.attributeName pair)
        made := station.made + 1 }

end Parts

variable {lifecycle : Lifecycle W L P} {station : Station W L P} {handle : Handle}

/-! ## The launch -/

theorem yields_acquireLines : lifecycle.acquireLines.Yields station fun result later =>
    ∀ pair, result = .ok pair →
      lifecycle.Acquires pair station.world ∧ later = { station with world := later.world } := by
  rw [acquireLines, Action.yields_bind]
  refine Action.yields_on.2 (Action.yields_of_run fun reset hreset => ?_)
  cases reset with
  | error failure => rintro _ ⟨⟩
  | ok reset =>
    dsimp only
    rw [Action.yields_bind, Action.yields_attempt]
    refine Action.yields_on.2 (Action.yields_of_run fun bootSelect hbootSelect => ?_)
    cases bootSelect with
    | ok bootSelect =>
      rintro pair ⟨⟩
      exact ⟨⟨hreset, hbootSelect⟩, rfl⟩
    | error failure =>
      dsimp only
      rw [Action.yields_bind, Action.yields_attempt]
      refine Action.yields_of_forall fun released later => ?_
      cases released with
      | ok _ => rintro _ ⟨⟩
      | error refusal =>
        dsimp only
        rw [Action.noteError, Action.yields_bind]
        rintro _ ⟨⟩

theorem yields_startUp (pair : LinePair L) : (lifecycle.startUp pair).Yields station
    fun result later => result = .ok (.ok ()) →
      ∃ before, (lifecycle.hardware.exec (pair.drive .release) before).outcome = .done () ∧
        later = { station with
          world := (lifecycle.hardware.exec (pair.drive .release) before).world } := by
  have hexec (command : Command) : lifecycle.lines.exec (pair.drive command) =
      (lifecycle.hardware.exec (pair.drive command)).on Station.worldPart :=
    lifecycle.hardware.exec_within _ _
  refine Action.Yields.contain ?_ (by rintro _ _ ⟨⟩)
  rw [Action.yields_attempt]
  simp only [LinePair.startUp, SettleWindow.wait, Action.noteInfo, hexec]
  refine .note_bind (.note_bind ((Action.yields_bind _ _).2 (Action.yields_on.2 ?_)))
  refine Action.yields_of_forall fun held middle => ?_
  cases held with
  | error failure => rintro ⟨⟩
  | ok _ =>
    refine .note_bind ?_
    rw [bind_assoc, Action.yields_bind]
    refine Action.yields_on.2 (Action.yields_of_forall fun waited last => ?_)
    cases waited with
    | error failure => rintro ⟨⟩
    | ok _ =>
      refine (Action.yields_bind _ _).2 ((Action.yields_pure _).2 (.note_bind ?_))
      rw [Action.yields_bind]
      refine Action.yields_on.2 (Action.yields_of_run fun released hreleased => ?_)
      cases released with
      | error failure => rintro ⟨⟩
      | ok _ => exact fun _ => ⟨last, hreleased, rfl⟩

theorem yields_launch : lifecycle.launch.Yields station fun result later =>
    ∀ handle, result = .ok handle → lifecycle.Launched station handle later := by
  rw [launch, Action.yields_bind]
  refine yields_acquireLines.mono fun acquired taken hacquired => ?_
  cases acquired with
  | error failure => rintro _ ⟨⟩
  | ok pair =>
    obtain ⟨hpair, htaken⟩ := hacquired pair rfl
    dsimp only
    rw [Action.yields_bind]
    refine (yields_startUp pair).mono fun started later hstarted => ?_
    cases started with
    | error failure => rintro _ ⟨⟩
    | ok started =>
      cases started with
      | ok _ =>
        obtain ⟨before, hdone, rfl⟩ := hstarted rfl
        rw [htaken]
        rintro handle ⟨⟩
        exact ⟨pair, before, hpair, hdone, rfl, rfl⟩
      | error failure =>
        dsimp only
        rw [Action.yields_bind, Action.yields_attempt]
        refine Action.yields_of_forall fun released last => ?_
        cases released with
        | ok _ => rintro _ ⟨⟩
        | error refusal =>
          dsimp only
          rw [Action.noteError, Action.yields_bind]
          rintro _ ⟨⟩

/-! ## The attachment -/

/-- An attachment is what comes of bringing the device up, with the phase on the way and after
it. -/
theorem yields_attach (hphase : station.phase = .unattached)
    {post : Except Failure Handle → Station W L P → Prop}
    (h : lifecycle.bringUp.Yields { station with phase := .attaching } fun result later =>
      match result with
      | .ok handle =>
        post (.ok handle) { later with current := some handle, phase := .attached }
      | .error failure => post (.error failure) { later with phase := .unattached }) :
    lifecycle.attach.Yields station post := by
  rw [attach, Action.yields_bind, Action.yields_world]
  simp only [hphase, ne_eq, not_true_eq_false, if_false]
  refine .note_bind (.update_bind ?_)
  rw [Action.yields_bind, Action.yields_attempt]
  refine h.mono fun result later hl => ?_
  cases result with
  | ok handle => exact .update_bind (.update_bind (.note_bind ((Action.yields_pure _).2 hl)))
  | error failure => exact .note_bind (.update_bind ((Action.yields_fail _).2 hl))

/-- After an attachment that did not fail a controller was launched, and the publisher has made it
known. -/
theorem of_attach (hdone : (lifecycle.attach station).outcome = .done handle) :
    let launched := lifecycle.launch { station with phase := .attaching }
    let published := Publisher.exec lifecycle.hardware
      (lifecycle.publisher.publish lifecycle.target.attributeName handle) launched.world
    launched.outcome = .done handle ∧
      lifecycle.Launched { station with phase := .attaching } handle launched.world ∧
      published.outcome = .done () ∧
      (lifecycle.attach station).world =
        { published.world with current := some handle, phase := .attached } := by
  have hphase : station.phase = .unattached := by
    refine Decidable.byContradiction fun hphase => ?_
    rw [attach_refused hphase] at hdone
    cases hdone
  have hattach : lifecycle.attach.Yields station fun result later =>
      ∀ handle, result = .ok handle →
        let launched := lifecycle.launch { station with phase := .attaching }
        let published := Publisher.exec lifecycle.hardware
          (lifecycle.publisher.publish lifecycle.target.attributeName handle) launched.world
        launched.outcome = .done handle ∧ published.outcome = .done () ∧
          later = { published.world with current := some handle, phase := .attached } := by
    refine yields_attach hphase ?_
    rw [bringUp_eq, Action.yields_bind]
    refine Action.yields_of_run fun launched hlaunched => ?_
    cases launched with
    | error failure => rintro _ ⟨⟩
    | ok handle =>
      dsimp only
      rw [announce, Action.yields_bind, Action.yields_attempt]
      refine Action.yields_of_run fun published hpublished => ?_
      cases published with
      | ok _ =>
        rintro handle ⟨⟩
        exact ⟨hlaunched, hpublished, rfl⟩
      | error failure =>
        dsimp only
        rw [Action.yields_bind, Action.yields_attempt]
        refine Action.yields_of_forall fun tornDown last => ?_
        cases tornDown with
        | ok _ => rintro _ ⟨⟩
        | error refusal =>
          dsimp only
          rw [Action.noteError, Action.yields_bind]
          rintro _ ⟨⟩
  obtain ⟨hlaunched, hpublished, hworld⟩ := hattach.done hdone handle rfl
  exact ⟨hlaunched, yields_launch.done hlaunched handle rfl, hpublished, hworld⟩

/-- With a publisher that only looks, nothing but the publisher's own part, the phase and the current
controller has changed since the launch. -/
theorem of_attach_looks (hstill : lifecycle.hardware.Still)
    (hlooks : ∀ name handle, (lifecycle.publisher.publish name handle).All PublisherCall.Looks)
    (hdone : (lifecycle.attach station).outcome = .done handle) :
    let launched := (lifecycle.launch { station with phase := .attaching }).world
    let attached := (lifecycle.attach station).world
    ∃ pair before, lifecycle.Acquires pair station.world ∧
      (lifecycle.hardware.exec (pair.drive .release) before).outcome = .done () ∧
      launched.world = (lifecycle.hardware.exec (pair.drive .release) before).world ∧
      launched.controllers handle = ⟨lifecycle.target.attributeName, .holding pair⟩ ∧
      attached = { launched with
        publisher := attached.publisher, current := some handle, phase := .attached } := by
  intro launched attached
  obtain ⟨-, ⟨pair, before, hacquires, hdriven, hhandle, hlaunched⟩, hpublished, hattached⟩ :=
    of_attach hdone
  refine ⟨pair, before, hacquires, hdriven, congrArg Station.world hlaunched, ?_, ?_⟩
  · rw [show launched.controllers = _ from congrArg Station.controllers hlaunched, hhandle]
    exact Station.replace_same _ _ _
  · obtain ⟨hworld, hbooks⟩ := (Station.publisher_looks hstill (hlooks _ handle)).done hpublished
    rw [show attached = _ from hattached]
    have hcontrollers := congrArg Books.controllers hbooks
    have hmade := congrArg Books.made hbooks
    dsimp only [Station.books, Station.booksPart] at hcontrollers hmade
    simp only [hworld, hcontrollers, hmade]
    rfl

end Lifecycle

end CoprocReset
