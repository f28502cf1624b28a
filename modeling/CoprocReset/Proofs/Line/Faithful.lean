import CoprocReset.Proofs.Line.Memory
import CoprocReset.Proofs.Line.Sysfs

/-!
# What a refused set leaves alone

A pair of lines is `Faithful` if each set does on its own line what it says, or fails and does
nothing. Lines may be refused in any way that the hardware likes; `RefusesPlainly` says that a
refusal is one of a file or one from inside. Lines in memory and lines behind files are both
(`faithful_memory`, `faithful_sysfs`).
-/

namespace CoprocReset

variable {W L : Type}

/-- A file could not be read or written. -/
def Failure.isIo : Failure → Bool
  | .ioRead .. | .ioWrite .. => true
  | _ => false

/-- Something went wrong on the inside. -/
def Failure.isInternal : Failure → Bool
  | .internal _ => true
  | _ => false

/-- A set that fails does so because of a file or for a reason of its own. -/
def Hardware.RefusesPlainly (hw : Hardware W L) : Prop :=
  ∀ line level world failure, (hw.set line level world).outcome = .failed failure →
    failure.isIo = true ∨ failure.isInternal = true

/-- Each set brings its level about on its own line, or fails and leaves both lines as they are. -/
structure LinePair.Faithful (pair : LinePair L) (hw : Hardware W L) (levels : W → Level × Level) :
    Prop where
  set_reset {world : W} {level : Level} (h : (hw.set pair.reset level world).outcome = .done ()) :
    levels (hw.set pair.reset level world).world = (level, (levels world).2)
  set_bootSelect {world : W} {level : Level}
    (h : (hw.set pair.bootSelect level world).outcome = .done ()) :
    levels (hw.set pair.bootSelect level world).world = ((levels world).1, level)
  reset_not_set {world : W} {level : Level} {failure : Failure}
    (h : (hw.set pair.reset level world).outcome = .failed failure) :
    levels (hw.set pair.reset level world).world = levels world
  bootSelect_not_set {world : W} {level : Level} {failure : Failure}
    (h : (hw.set pair.bootSelect level world).outcome = .failed failure) :
    levels (hw.set pair.bootSelect level world).world = levels world

/-! ## In memory -/

section Memory

variable {pair : LinePair MemoryLine}

theorem faithful_memory (hne : pair.reset.name ≠ pair.bootSelect.name) :
    pair.Faithful memoryHardware (MemoryBank.levels pair) where
  set_reset := (shown_memory hne).set_reset
  set_bootSelect := (shown_memory hne).set_bootSelect
  reset_not_set h := congrArg _ (MemoryLine.of_set_failed h)
  bootSelect_not_set h := congrArg _ (MemoryLine.of_set_failed h)

theorem refusesPlainly_memory : memoryHardware.RefusesPlainly := by
  intro line level bank failure h
  change (MemoryLine.set line level bank).outcome = .failed failure at h
  rcases hentry : bank.entryAt line.name with _ | entry
  · rw [MemoryLine.set_unknown hentry] at h
    cases h
    exact .inr rfl
  · rw [MemoryLine.set_eq hentry] at h
    cases h

end Memory

/-! ## Behind files -/

section Sysfs

open Files (Path FileTree)

variable {pair : LinePair SysfsLine} {gpioClass : Path}

namespace SysfsLine

variable {line other : SysfsLine} {level : Level} {tree : FileTree}

/-- A line keeps its level, whatever comes of setting one with another file. -/
theorem levelIn_set_of_apart (h : line.value.Apart other.value) (level : Level)
    (tree : FileTree) : other.levelIn (line.set level tree).world = other.levelIn tree := by
  rw [levelIn, levelIn, SysfsLine.set, Files.read_write h (digit_ne_empty level)]

theorem levelIn_set (h : (line.set level tree).outcome = .done ()) :
    line.levelIn (line.set level tree).world = level := by
  obtain ⟨later, hrun, hlevel, -⟩ := set_eq (holdsFile_of_set h) level
  rw [hrun]
  exact hlevel.levelIn_eq

theorem of_set_failed {failure : Failure} (h : (line.set level tree).outcome = .failed failure) :
    (line.set level tree).world = tree :=
  Files.write_failed h

end SysfsLine

theorem faithful_sysfs (h : pair.reset.value.Apart pair.bootSelect.value) :
    pair.Faithful (sysfsHardware gpioClass) pair.fileLevels where
  set_reset hdone :=
    Prod.ext (SysfsLine.levelIn_set hdone) (SysfsLine.levelIn_set_of_apart h _ _)
  set_bootSelect hdone :=
    Prod.ext (SysfsLine.levelIn_set_of_apart h.symm _ _) (SysfsLine.levelIn_set hdone)
  reset_not_set hfailed := congrArg _ (SysfsLine.of_set_failed hfailed)
  bootSelect_not_set hfailed := congrArg _ (SysfsLine.of_set_failed hfailed)

theorem refusesPlainly_sysfs (gpioClass : Path) : (sysfsHardware gpioClass).RefusesPlainly := by
  intro line level tree failure h
  change (Files.write line.value false level.digit tree).outcome = .failed failure at h
  rw [Files.write] at h
  split at h
  · cases h
  · cases h
    exact .inl rfl

end Sysfs

end CoprocReset
