import CoprocReset.Proofs.Line.Hardware
import CoprocReset.Reset.Pair

/-!
# What is known of a pair of lines

Two things may be known of the lines of a pair on some hardware. `LinePair.Shown` is little: their
levels can be told from the world, and a call that does not fail has done what it is for.
`LinePair.Reliable` is more: as long as the world is in order, calls do not fail either.
-/

namespace CoprocReset

namespace LinePair

variable {W L : Type}

/-- The levels of the pair can be told from the world: a line that was set has the level that it was
set to, the other line keeps its own, and so do both when they are released. -/
structure Shown (pair : LinePair L) (hw : Hardware W L) (levels : W → Level × Level) : Prop where
  set_reset {world : W} {level : Level}
    (h : (hw.set pair.reset level world).outcome = .done ()) :
    levels (hw.set pair.reset level world).world = (level, (levels world).2)
  set_bootSelect {world : W} {level : Level}
    (h : (hw.set pair.bootSelect level world).outcome = .done ()) :
    levels (hw.set pair.bootSelect level world).world = ((levels world).1, level)
  release_reset (world : W) : levels (hw.release pair.reset world).world = levels world
  release_bootSelect (world : W) : levels (hw.release pair.bootSelect world).world = levels world

/-- In a world in order the lines of the pair can be read and set, and the world stays in order. -/
structure Reliable (pair : LinePair L) (hw : Hardware W L) (levels : W → Level × Level)
    (inOrder : W → Prop) : Prop where
  get_reset {world : W} (h : inOrder world) :
    (hw.get pair.reset world).outcome = .done (levels world).1 ∧
      inOrder (hw.get pair.reset world).world ∧
      levels (hw.get pair.reset world).world = levels world
  get_bootSelect {world : W} (h : inOrder world) :
    (hw.get pair.bootSelect world).outcome = .done (levels world).2 ∧
      inOrder (hw.get pair.bootSelect world).world ∧
      levels (hw.get pair.bootSelect world).world = levels world
  set_reset {world : W} (h : inOrder world) (level : Level) :
    (hw.set pair.reset level world).outcome = .done () ∧
      inOrder (hw.set pair.reset level world).world ∧
      levels (hw.set pair.reset level world).world = (level, (levels world).2)
  set_bootSelect {world : W} (h : inOrder world) (level : Level) :
    (hw.set pair.bootSelect level world).outcome = .done () ∧
      inOrder (hw.set pair.bootSelect level world).world ∧
      levels (hw.set pair.bootSelect level world).world = ((levels world).1, level)

variable {pair : LinePair L} {hw : Hardware W L} {levels : W → Level × Level}

/-- A command that was carried out has left its levels on the lines. -/
theorem Shown.drive (h : pair.Shown hw levels) {command : Command} {world : W}
    (hdone : (hw.exec (pair.drive command) world).outcome = .done ()) :
    levels (hw.exec (pair.drive command) world).world =
      (command.resetLevel, command.bootSelectLevel) := by
  simp only [LinePair.drive, Hardware.exec, Script.exec_bind, Script.exec_ask, Hardware.perform]
    at hdone ⊢
  rcases hreset : hw.set pair.reset command.resetLevel world
    with ⟨_ | failure | message, middle, log⟩
  · rw [Action.bind_done hreset] at hdone ⊢
    have hmiddle := h.set_reset (congrArg Run.outcome hreset)
    rw [hreset] at hmiddle
    rw [h.set_bootSelect hdone, hmiddle]
  · simp [Action.bind_failed hreset] at hdone
  · simp [Action.bind_crashed hreset] at hdone

end LinePair

end CoprocReset
