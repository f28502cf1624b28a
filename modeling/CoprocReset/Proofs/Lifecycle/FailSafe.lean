import CoprocReset.Proofs.Lifecycle.Course
import CoprocReset.Proofs.Lifecycle.DryRun

/-!
# What a detachment leaves behind

A detachment takes the attribute away, forces the coprocessor into reset and releases both lines.
`detach_eq` says what it comes to from what the four steps come to. The forcing has no part in it:
if it fails, that is logged, and the detachment is a success as long as the other steps are.
`detach_done_iff` says when that leaves the coprocessor out of reset.
-/

namespace CoprocReset

namespace Lifecycle

variable {W L P : Type}

section Steps

variable (lifecycle : Lifecycle W L P) (station : Station W L P) (pair : LinePair L)

/-- The first step of a detachment: the attribute is taken away. -/
def withdrawal : Run (Station W L P) Unit :=
  Publisher.exec lifecycle.hardware (lifecycle.publisher.unpublish lifecycle.target.attributeName)
    { station with phase := .detaching }

/-- The second step: the coprocessor is forced into reset. -/
def forcing : Run W Unit :=
  lifecycle.hardware.exec (pair.drive .hold) (lifecycle.withdrawal station).world.world

/-- The third step: the reset line is released. -/
def resetRelease : Run W Unit :=
  lifecycle.hardware.release pair.reset (lifecycle.forcing station pair).world

/-- The last step: the boot-select line is released. -/
def bootSelectRelease : Run W Unit :=
  lifecycle.hardware.release pair.bootSelect (lifecycle.resetRelease station pair).world

end Steps

variable {lifecycle : Lifecycle W L P} {station : Station W L P} {handle : Handle} {name : String}
  {pair : LinePair L}

/-- Whatever comes of the forcing, the lines are taken away from the controller. -/
theorem yields_shutdown {hw : Hardware W L}
    (hholding : station.controllers handle = ⟨name, .holding pair⟩)
    {post : Except Failure (LinePair L) → Station W L P → Prop}
    (h : (hw.exec (pair.drive .hold)).Yields station.world fun _ later =>
      post (.ok pair)
        { station with
          world := later
          controllers := Station.replace station.controllers handle ⟨name, .vacant⟩ }) :
    (Station.shutdown hw handle).Yields station post := by
  have henter {post : Except Failure (LinePair L × Except Failure Unit) → W × Controller L → Prop}
      (h : (hw.exec (pair.drive .hold)).Yields station.world fun forced later =>
        post (.ok (pair, forced)) (later, ⟨name, .vacant⟩)) :
      (Controller.enter hw .surrender).Yields (station.world, ⟨name, .holding pair⟩) post := by
    have hroutine : (hw.exec (Section.surrender.routine pair)).Yields station.world
        fun result later => post result (later, ⟨name, .vacant⟩) := by
      simp only [Section.routine, Hardware.exec, Script.exec_bind, Script.exec_attempt,
        Action.yields_bind, Action.yields_attempt]
      exact h.mono fun forced later hl => hl
    unfold Action.Yields Controller.enter at *
    simp only [Section.custodyAfter, Section.keepsLines]
    split <;> simp_all
  refine Station.yields_control.2 ?_
  rw [hholding, Controller.shutdown, Controller.exec, Script.exec_bind, Action.yields_bind,
    Controller.inside, Script.exec_ask]
  refine henter (h.mono fun forced later hl => ?_)
  cases forced with
  | ok _ => exact hl
  | error failure => exact hl

/-- Both lines are released, and the first failure is handed on. -/
theorem yields_release {hw : Hardware W L} {world : W} {post : Except Failure Unit → W → Prop}
    (h : (hw.release pair.reset).Yields world fun reset middle =>
      (hw.release pair.bootSelect).Yields middle fun bootSelect later =>
        post (reset >>= fun () => bootSelect) later) :
    (pair.release hw).Yields world post := by
  simp only [LinePair.release, Action.yields_bind, Action.yields_attempt]
  refine h.mono fun reset middle hreset => hreset.mono fun bootSelect later hl => ?_
  cases bootSelect with
  | ok _ => exact (Action.yields_ofExcept _).2 hl
  | error failure =>
    exact .note_bind ((Action.yields_ofExcept _).2 hl)

theorem yields_tearDown (hholding : station.controllers handle = ⟨name, .holding pair⟩)
    {post : Except Failure Unit → Station W L P → Prop}
    (h : (lifecycle.hardware.exec (pair.drive .hold)).Yields station.world fun _ forced =>
      (lifecycle.hardware.release pair.reset).Yields forced fun reset middle =>
        (lifecycle.hardware.release pair.bootSelect).Yields middle fun bootSelect later =>
          post (reset >>= fun () => bootSelect)
            { station with
              world := later
              controllers := Station.replace station.controllers handle ⟨name, .vacant⟩ }) :
    (lifecycle.tearDown handle).Yields station post := by
  refine (Action.yields_bind _ _).2 (yields_shutdown hholding (h.mono fun _ forced hforced => ?_))
  refine yields_release (Action.yields_on.2 (hforced.mono fun reset middle hreset => ?_))
  exact Action.yields_on.2 (hreset.mono fun bootSelect later hl => hl)

/-- What a detachment comes to: the attribute is taken away, the coprocessor is forced into reset,
both lines are released, and of the failures of these steps but the second the one of the reset line
counts first and that of the attribute last. -/
theorem yields_detach (hphase : station.phase = .attached)
    (hcurrent : station.current = some handle)
    (hholding : station.controllers handle = ⟨name, .holding pair⟩)
    {post : Except Failure Unit → Station W L P → Prop}
    (h : (Publisher.exec lifecycle.hardware
        (lifecycle.publisher.unpublish lifecycle.target.attributeName)).Yields
      { station with phase := .detaching } fun unpublished withdrawn =>
        (lifecycle.hardware.exec (pair.drive .hold)).Yields withdrawn.world fun _ forced =>
          (lifecycle.hardware.release pair.reset).Yields forced fun reset middle =>
            (lifecycle.hardware.release pair.bootSelect).Yields middle fun bootSelect later =>
              post (reset >>= fun () => bootSelect >>= fun () => unpublished)
                { withdrawn with
                  world := later
                  controllers := Station.replace station.controllers handle ⟨name, .vacant⟩
                  phase := .unattached
                  current := none }) :
    lifecycle.detach.Yields station post := by
  rw [detach, Action.yields_bind, Action.yields_world]
  simp only [hphase, ne_eq, not_true_eq_false, if_false]
  refine .note_bind (.update_bind ((Action.yields_bind _ _).2 ?_))
  -- the publisher leaves the books as they are, so the controller is still there
  have hbooks : (Publisher.exec lifecycle.hardware
      (lifecycle.publisher.unpublish lifecycle.target.attributeName)).Yields
      { station with phase := .detaching } fun _ later =>
        True ∧ later.books = Station.books { station with phase := .detaching } :=
    Station.publisher_keeps lifecycle.hardware.keeps_true _ trivial
  refine Action.yields_attempt.2 ((h.and hbooks).mono fun unpublished withdrawn hl => ?_)
  obtain ⟨hrest, -, hwithdrawn⟩ := hl
  have hcurrent' : withdrawn.current = some handle :=
    (congrArg Books.current hwithdrawn).trans hcurrent
  have hcontrollers : withdrawn.controllers = station.controllers :=
    congrArg Books.controllers hwithdrawn
  have hholding' : withdrawn.controllers handle = ⟨name, .holding pair⟩ := hcontrollers ▸ hholding
  rw [← hcontrollers] at hrest
  have hdismiss : (lifecycle.dismiss.attempt >>= fun released => do
      setPhase .unattached
      Action.noteInfo (lifecycle.target.attributeName ++ " detached")
      Action.ofExcept (released >>= fun () => unpublished)).Yields withdrawn post := by
    refine (Action.yields_bind _ _).2 (Action.yields_attempt.2 ?_)
    rw [dismiss, Action.yields_bind, Action.yields_world]
    simp only [hcurrent']
    refine .update_bind (yields_tearDown (by exact hholding') ?_)
    refine hrest.mono fun _ forced hforced => hforced.mono fun reset middle hreset => ?_
    refine hreset.mono fun bootSelect later hl => ?_
    refine .update_bind (.note_bind ((Action.yields_ofExcept _).2 ?_))
    rw [bind_assoc]
    exact hl
  cases unpublished with
  | ok _ => exact hdismiss
  | error failure => exact .note_bind hdismiss

theorem detach_eq (hphase : station.phase = .attached) (hcurrent : station.current = some handle)
    (hholding : station.controllers handle = ⟨name, .holding pair⟩) :
    lifecycle.detach.Yields station fun result later =>
      ∃ unpublished forced reset bootSelect,
        (lifecycle.withdrawal station).outcome = .ofExcept unpublished ∧
        (lifecycle.forcing station pair).outcome = .ofExcept forced ∧
        (lifecycle.resetRelease station pair).outcome = .ofExcept reset ∧
        (lifecycle.bootSelectRelease station pair).outcome = .ofExcept bootSelect ∧
        result = (reset >>= fun () => bootSelect >>= fun () => unpublished) ∧
        later.world = (lifecycle.bootSelectRelease station pair).world := by
  refine yields_detach hphase hcurrent hholding ?_
  refine Action.yields_of_run fun unpublished hunpublished => ?_
  refine Action.yields_of_run fun forced hforced => ?_
  refine Action.yields_of_run fun reset hreset => ?_
  refine Action.yields_of_run fun bootSelect hbootSelect => ?_
  exact ⟨unpublished, forced, reset, bootSelect, hunpublished, hforced, hreset, hbootSelect, rfl,
    rfl⟩

theorem ofExcept_eq_done_iff {result : Except Failure Unit} :
    Outcome.ofExcept result = .done () ↔ result = .ok () := by
  cases result <;> simp [Outcome.ofExcept]

/-- A detachment is a success if the attribute was taken away and both lines were released, and
leaves the levels that the lines had after the forcing. So the coprocessor is held in reset if the
forcing came through, and otherwise only if the lines happened to be at these levels. -/
theorem detach_done_iff (hcalm : lifecycle.hardware.Calm) {around : Surroundings W}
    (h : lifecycle.Reachable around station) (hattached : station.phase = .attached)
    (hdone : ∀ message, (lifecycle.detach station).outcome ≠ .crashed message) :
    ∃ handle name pair, station.current = some handle ∧
      station.controllers handle = ⟨name, .holding pair⟩ ∧
      let detached := lifecycle.detach station
      let succeeds := (lifecycle.withdrawal station).outcome = .done () ∧
        (lifecycle.resetRelease station pair).outcome = .done () ∧
        (lifecycle.bootSelectRelease station pair).outcome = .done ()
      let forcing := lifecycle.forcing station pair
      (detached.outcome = .done () ↔ succeeds) ∧
        ∀ levels, pair.Shown lifecycle.hardware levels →
          (forcing.outcome = .done () → levels detached.world.world = (.low, .high)) ∧
          (detached.outcome = .done () ∧ levels detached.world.world ≠ (.low, .high) ↔
            succeeds ∧ (∃ failure, forcing.outcome = .failed failure) ∧
              levels forcing.world ≠ (.low, .high)) := by
  obtain ⟨history, hcourse⟩ := h.course hcalm
  obtain ⟨rest, -, hrest⟩ := hcourse.settled hcalm
  cases hrest with
  | unattached hphase => exact absurd (hphase.symm.trans hattached) nofun
  | @attached handle name pair hphase hcurrent hholding =>
    refine ⟨handle, name, pair, hcurrent, hholding, ?_⟩
    obtain ⟨result, hresult, unpublished, forced, reset, bootSelect, hunpublished, hforced, hreset,
      hbootSelect, rfl, hworld⟩ := (detach_eq hphase hcurrent hholding).result hdone
    have hiff : (lifecycle.detach station).outcome = .done () ↔
        (lifecycle.withdrawal station).outcome = .done () ∧
          (lifecycle.resetRelease station pair).outcome = .done () ∧
          (lifecycle.bootSelectRelease station pair).outcome = .done () := by
      rw [hresult, hunpublished, hreset, hbootSelect]
      simp only [ofExcept_eq_done_iff]
      cases reset <;> cases bootSelect <;> cases unpublished <;> simp [bind, Except.bind]
    refine ⟨hiff, fun levels hlevels => ?_⟩
    have hkept : levels (lifecycle.detach station).world.world =
        levels (lifecycle.forcing station pair).world := by
      rw [hworld, bootSelectRelease, hlevels.release_bootSelect, resetRelease,
        hlevels.release_reset]
    have hheld : (lifecycle.forcing station pair).outcome = .done () →
        levels (lifecycle.forcing station pair).world = (.low, .high) := hlevels.drive
    rw [hkept, hiff]
    refine ⟨hheld, and_congr_right fun _ => ⟨fun hne => ⟨?_, hne⟩, And.right⟩⟩
    cases forced with
    | ok _ => exact absurd (hheld hforced) hne
    | error failure => exact ⟨failure, hforced⟩

/-- The third set on the reset line is to force the coprocessor into reset. If it fails, the
detachment is a success all the same, and the coprocessor runs on. -/
theorem detach_done_iff_dryRun :
    let faulty := dryRun [⟨"reset-line", .set, 3, false⟩]
    let attached := (faulty.perform .attach dryStation).world
    let pair : LinePair MemoryLine :=
      ⟨⟨"reset-line", .activeHigh⟩, ⟨"boot-select-line", .activeHigh⟩⟩
    faulty.Reachable .any attached ∧ attached.phase = .attached ∧
      (faulty.detach attached).outcome = .done () ∧
      (faulty.detach attached).world.world.1.levels pair ≠ (.low, .high) := by
  have hattached : (dryRun [⟨"reset-line", .set, 3, false⟩]).Reachable .any _ :=
    .perform .attach (.initial dryStation.world dryStation.publisher trivial) fun _ => nofun
  obtain ⟨handle, name, pair, hcurrent, hholding, -, hlevels⟩ :=
    detach_done_iff (dryRun_calm (by simp)) hattached rfl fun _ => nofun
  obtain rfl : 0 = handle := Option.some.inj hcurrent
  obtain ⟨-, hcustody⟩ := Controller.mk.inj hholding
  obtain rfl := Custody.holding.inj hcustody
  have hshown : LinePair.Shown ⟨⟨"reset-line", .activeHigh⟩, ⟨"boot-select-line", .activeHigh⟩⟩
      (dryRun [⟨"reset-line", .set, 3, false⟩]).hardware _ :=
    (shown_memory (by decide)).faulty _
  exact ⟨hattached, rfl, (hlevels _ hshown).2.2 ⟨⟨rfl, rfl, rfl⟩, ⟨_, rfl⟩, by decide⟩⟩

end Lifecycle

end CoprocReset
