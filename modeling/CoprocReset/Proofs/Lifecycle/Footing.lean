import CoprocReset.Proofs.Lifecycle.Launch
import CoprocReset.Proofs.Line.Dependable

/-!
# Lifecycles on dependable lines

On lines that it can depend on, a lifecycle comes to the end of everything that it does with them
itself: it always launches a controller, with the lines at the levels of a running coprocessor
(`delivers_launch`), and it always tears it down again, with the lines at the levels of a coprocessor
held in reset (`delivers_tearDown`). Only its publisher can fail.
-/

namespace CoprocReset

namespace Lifecycle

variable {W L P : Type}

/-- Dependable lines for a lifecycle. -/
structure Footing (lifecycle : Lifecycle W L P) where
  pair : LinePair L
  levels : W → Level × Level
  free : W → Prop
  held : W → Prop
  known : W → Prop
  dependable : pair.Dependable lifecycle.hardware lifecycle.resetRequest lifecycle.bootSelectRequest
    levels free held known

namespace Footing

variable {lifecycle : Lifecycle W L P} (lines : lifecycle.Footing) {station : Station W L P}
  {handle : Handle} {name : String}

/-- The lines are at the levels of a command, and known to be. -/
def Shows (command : Command) (world : W) : Prop :=
  lines.known world ∧ lines.levels world = command.levels

theorem delivers_acquireLines (hfree : lines.free station.world) :
    lifecycle.acquireLines.Delivers station fun result later =>
      result = .ok lines.pair ∧ lines.held later.world ∧
        later = { station with world := later.world } := by
  obtain ⟨hfirst, hsecond, hheld⟩ := lines.dependable.acquire hfree
  rw [acquireLines]
  refine .bind ⟨.ok lines.pair.reset, hfirst, ?_⟩
  refine .bind (.attempt ⟨.ok lines.pair.bootSelect, hsecond, ?_⟩)
  exact (Action.delivers_pure _).2 ⟨rfl, hheld, rfl⟩

theorem delivers_drive (hheld : lines.held station.world) (command : Command) :
    (lifecycle.lines.exec (lines.pair.drive command)).Delivers station fun result later =>
      result = .ok () ∧ lines.held later.world ∧ lines.Shows command later.world ∧
        later = { station with world := later.world } := by
  obtain ⟨hdone, hheld', hshows⟩ := lines.dependable.drive hheld command
  rw [Lifecycle.lines, Hardware.exec_within]
  exact ⟨.ok (), hdone, rfl, hheld', hshows, rfl⟩

theorem delivers_startUp (hheld : lines.held station.world) :
    (lifecycle.startUp lines.pair).Delivers station fun result later =>
      result = .ok (.ok ()) ∧ lines.held later.world ∧ lines.Shows .release later.world ∧
        later = { station with world := later.world } := by
  have hwait {world : W} {ms : Nat} : lifecycle.hardware.wait ms world = ⟨.done (), world, []⟩ :=
    lines.dependable.wait ms world
  refine .contain (.attempt ?_)
  simp only [LinePair.startUp, SettleWindow.wait, Action.noteInfo]
  refine .bind ((Action.delivers_note _ _).2 (.bind ((Action.delivers_note _ _).2 (.bind ?_))))
  refine (lines.delivers_drive hheld .hold).mono ?_
  rintro _ middle ⟨rfl, hmiddle, -, hsame⟩
  refine .bind ((Action.delivers_note _ _).2 (.bind (.bind ⟨.ok (), ?_, ?_⟩)))
  · exact congrArg Run.outcome hwait
  refine (Action.delivers_pure _).2 (.bind ((Action.delivers_note _ _).2 (.bind ?_)))
  -- time passes, and nothing else happens
  have hwaited : (lifecycle.lines.wait lifecycle.target.settle.least middle).world = middle := by
    change Station.worldPart.set (lifecycle.hardware.wait _ middle.world).world middle = middle
    rw [hwait]
    rfl
  rw [hwaited]
  refine (lines.delivers_drive hmiddle .release).mono ?_
  rintro _ later ⟨rfl, hlater, hshows, hsame'⟩
  refine (Action.delivers_note _ _).2 ⟨rfl, hlater, hshows, ?_⟩
  rw [hsame', hsame]

/-- A controller is launched that runs its coprocessor. -/
theorem delivers_launch (hfree : lines.free station.world) :
    lifecycle.launch.Delivers station fun result later =>
      result = .ok station.made ∧ lines.held later.world ∧ lines.Shows .release later.world ∧
        later =
          { station with
            world := later.world
            controllers := Station.replace station.controllers station.made
              (.ofPair lifecycle.target.attributeName lines.pair)
            made := station.made + 1 } := by
  rw [launch]
  refine .bind ((lines.delivers_acquireLines hfree).mono ?_)
  rintro _ taken ⟨rfl, htaken, hsame⟩
  refine .bind ((lines.delivers_startUp htaken).mono ?_)
  rintro _ started ⟨rfl, hstarted, hshows, hsame'⟩
  refine ⟨.ok started.made, rfl, ?_, hstarted, hshows, ?_⟩
  · rw [hsame', hsame]
  · rw [hsame', hsame]
    rfl

theorem delivers_shutdown (hholding : station.controllers handle = ⟨name, .holding lines.pair⟩)
    (hheld : lines.held station.world) :
    (Station.shutdown lifecycle.hardware handle).Delivers station fun result later =>
      result = .ok lines.pair ∧ lines.held later.world ∧ lines.Shows .hold later.world ∧
        later =
          { station with
            world := later.world
            controllers := Station.replace station.controllers handle ⟨name, .vacant⟩ } := by
  obtain ⟨hdone, hheld', hshows⟩ := lines.dependable.drive hheld .hold
  rcases hdrive : lifecycle.hardware.exec (lines.pair.drive .hold) station.world
    with ⟨outcome, later, log⟩
  rw [hdrive] at hdone hheld' hshows
  obtain rfl : outcome = .done () := hdone
  have henter : Controller.perform lifecycle.hardware (.enter .surrender)
      (station.world, ⟨name, .holding lines.pair⟩) =
        ⟨.done (lines.pair, .ok ()), (later, ⟨name, .vacant⟩), log⟩ :=
    Scripted.enter_surrender hdrive
  refine Station.delivers_control.2 ?_
  rw [hholding, Controller.shutdown, Controller.exec, Script.exec_bind, Controller.inside,
    Script.exec_ask]
  refine .bind ⟨.ok (lines.pair, .ok ()), congrArg Run.outcome henter, ?_⟩
  rw [henter]
  exact ⟨.ok lines.pair, rfl, rfl, hheld', hshows, rfl⟩

/-- The lines are given back, with the coprocessor held in reset. -/
theorem delivers_tearDown (hholding : station.controllers handle = ⟨name, .holding lines.pair⟩)
    (hheld : lines.held station.world) :
    (lifecycle.tearDown handle).Delivers station fun result later =>
      result = .ok () ∧ lines.free later.world ∧ lines.Shows .hold later.world ∧
        later =
          { station with
            world := later.world
            controllers := Station.replace station.controllers handle ⟨name, .vacant⟩ } := by
  rw [tearDown]
  refine .bind ((lines.delivers_shutdown hholding hheld).mono ?_)
  rintro _ forced ⟨rfl, hforced, ⟨hknown, hlevels⟩, hsame⟩
  obtain ⟨hfirst, hsecond, hfree, hknown', hkept⟩ := lines.dependable.release hforced hknown
  dsimp only
  rw [LinePair.release]
  refine .bind (.attempt ⟨.ok (), hfirst, .bind (.attempt ⟨.ok (), hsecond, ?_⟩)⟩)
  refine ⟨.ok (), rfl, rfl, hfree, ⟨hknown', hkept.trans hlevels⟩, ?_⟩
  rw [hsame]
  rfl

end Footing

end Lifecycle

end CoprocReset
