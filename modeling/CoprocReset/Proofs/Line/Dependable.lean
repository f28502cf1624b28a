import CoprocReset.Proofs.Line.Memory
import CoprocReset.Proofs.Line.Sysfs

/-!
# Lines to depend on

A pair of lines is `Dependable` if its owner can do all that it is meant to do with it, without ever
being refused: acquire it while it is free, carry out commands and look while it is held, and release
it. Two lines in memory of different names are dependable if nobody else has them or wants them to be
refused (`dependable_memory`), and two lines behind files if both are exported, with files that can be
written (`dependable_sysfs`). The files may hold anything.
-/

namespace CoprocReset

variable {W L : Type}

/-- Requests for the lines of the pair are granted while it is free, and what is done with it while it
is held does what it is for. -/
structure LinePair.Dependable (pair : LinePair L) (hw : Hardware W L)
    (reset bootSelect : LineRequest) (levels : W → Level × Level) (free held known : W → Prop) :
    Prop where
  settles : pair.Settles hw levels known
  keeps : hw.Keeps held
  wait (ms : Nat) (world : W) : hw.wait ms world = ⟨.done (), world, []⟩
  acquire {world : W} (h : free world) :
    let first := hw.acquire reset world
    let second := hw.acquire bootSelect first.world
    first.outcome = .done pair.reset ∧ second.outcome = .done pair.bootSelect ∧ held second.world
  drivable {world : W} (h : held world) (command : Command) :
    (hw.exec (pair.drive command) world).outcome = .done ()
  release {world : W} (h : held world) (hknown : known world) :
    let first := hw.release pair.reset world
    let second := hw.release pair.bootSelect first.world
    first.outcome = .done () ∧ second.outcome = .done () ∧ free second.world ∧
      known second.world ∧ levels second.world = levels world

namespace LinePair

variable {pair : LinePair L} {hw : Hardware W L} {reset bootSelect : LineRequest}
  {levels : W → Level × Level} {free held known : W → Prop} {world : W}

/-- While the pair is held, a command leaves its levels on the lines. -/
theorem Dependable.drive (h : pair.Dependable hw reset bootSelect levels free held known)
    (hheld : held world) (command : Command) :
    (hw.exec (pair.drive command) world).outcome = .done () ∧
      held (hw.exec (pair.drive command) world).world ∧
      known (hw.exec (pair.drive command) world).world ∧
      levels (hw.exec (pair.drive command) world).world = command.levels :=
  have hdone := h.drivable hheld command
  ⟨hdone, (h.keeps.exec _ hheld).done hdone, h.settles.drive hdone⟩

/-- Lines that are held stay so while they are read and set. -/
theorem Reliable.and_keeps (h : pair.Reliable hw levels known) (hkeeps : hw.Keeps held) :
    pair.Reliable hw levels fun world => held world ∧ known world where
  get_reset hworld :=
    have ⟨hdone, hknown, hlevels⟩ := h.get_reset hworld.2
    ⟨hdone, ⟨(hkeeps.get _ hworld.1).done hdone, hknown⟩, hlevels⟩
  get_bootSelect hworld :=
    have ⟨hdone, hknown, hlevels⟩ := h.get_bootSelect hworld.2
    ⟨hdone, ⟨(hkeeps.get _ hworld.1).done hdone, hknown⟩, hlevels⟩
  set_reset hworld level :=
    have ⟨hdone, hknown, hlevels⟩ := h.set_reset hworld.2 level
    ⟨hdone, ⟨(hkeeps.set _ _ hworld.1).done hdone, hknown⟩, hlevels⟩
  set_bootSelect hworld level :=
    have ⟨hdone, hknown, hlevels⟩ := h.set_bootSelect hworld.2 level
    ⟨hdone, ⟨(hkeeps.set _ _ hworld.1).done hdone, hknown⟩, hlevels⟩

theorem Dependable.reliable (h : pair.Dependable hw reset bootSelect levels free held known) :
    pair.Reliable hw levels fun world => held world ∧ known world :=
  h.settles.reliable.and_keeps h.keeps

end LinePair

/-- What looks and commands keep can be said of the world before and after. -/
theorem Hardware.keeps_of_still {hw : Hardware W L} {J : W → Prop} (hstill : hw.Still)
    (hset : ∀ line level {world}, J world → J (hw.set line level world).world) : hw.Keeps J where
  get line world h := Action.yields_of_run fun _ _ => by rwa [hstill]
  set line level _ h := Action.yields_of_run fun _ _ => hset line level h

/-! ## In memory -/

namespace MemoryBank

variable {bank : MemoryBank} {reset bootSelect name : String} {held : Bool}

/-- Somebody has the line of the name. -/
def heldAt (bank : MemoryBank) (name : String) : Bool := (bank.entryAt name).any (·.held)

theorem heldAt_put (bank : MemoryBank) (name other : String) (entry : MemoryEntry) :
    (bank.put name entry).heldAt other = if other = name then entry.held else bank.heldAt other := by
  rw [heldAt, entryAt_put]
  split <;> rfl

theorem refusals_put (bank : MemoryBank) (name : String) (entry : MemoryEntry) :
    (bank.put name entry).refusals = bank.refusals := rfl

theorem isSome_of_heldAt (h : bank.heldAt name = true) : (bank.entryAt name).isSome := by
  cases hentry : bank.entryAt name with
  | none => simp [heldAt, hentry] at h
  | some entry => rfl

/-- The lines of the two names are held, or not, and are not to be refused. -/
structure Serves (reset bootSelect : String) (held : Bool) (bank : MemoryBank) : Prop where
  resetHeld : bank.heldAt reset = held
  bootSelectHeld : bank.heldAt bootSelect = held
  resetAllowed : bank.refusals.lookup reset = none
  bootSelectAllowed : bank.refusals.lookup bootSelect = none

/-- Setting a line takes it from nobody. -/
theorem heldAt_set (line : MemoryLine) (level : Level) (bank : MemoryBank) (name : String) :
    (line.set level bank).world.heldAt name = bank.heldAt name := by
  rcases hentry : bank.entryAt line.name with _ | entry
  · rw [MemoryLine.set_unknown hentry]
  · rw [MemoryLine.set_eq hentry]
    refine (heldAt_put bank line.name name _).trans ?_
    split
    · next hname => simp [heldAt, hname, hentry]
    · rfl

theorem Serves.set (h : Serves reset bootSelect held bank) (line : MemoryLine) (level : Level) :
    Serves reset bootSelect held (line.set level bank).world := by
  have hrefusals : (line.set level bank).world.refusals = bank.refusals := by
    rcases hentry : bank.entryAt line.name with _ | entry
    · rw [MemoryLine.set_unknown hentry]
    · rw [MemoryLine.set_eq hentry]
      rfl
  exact ⟨(heldAt_set ..).trans h.resetHeld, (heldAt_set ..).trans h.bootSelectHeld,
    hrefusals ▸ h.resetAllowed, hrefusals ▸ h.bootSelectAllowed⟩

end MemoryBank

/-- A line that is held is given back, and keeps its level. -/
theorem MemoryLine.release_eq (line : MemoryLine) {bank : MemoryBank}
    (h : bank.heldAt line.name = true) :
    ∃ entry : MemoryEntry, line.release bank =
      ⟨.done (), bank.put line.name { entry with held := false }, []⟩ := by
  obtain ⟨entry, hentry⟩ := Option.isSome_iff_exists.1 (MemoryBank.isSome_of_heldAt h)
  have hheld : entry.held = true := by simpa [MemoryBank.heldAt, hentry] using h
  refine ⟨entry, ?_⟩
  simp [release, Action.bind_apply, Action.andThen, Action.world, Action.update, hentry, hheld]

/-- The lines in memory that two requests are for. -/
def LinePair.inMemory (reset bootSelect : LineRequest) : LinePair MemoryLine :=
  ⟨⟨reset.name, reset.polarity⟩, ⟨bootSelect.name, bootSelect.polarity⟩⟩

section Memory

open MemoryBank (Serves heldAt_put refusals_put entryAt_put)

variable {reset bootSelect : LineRequest} (hne : reset.name ≠ bootSelect.name) {bank : MemoryBank}
include hne

/-- Two lines that nobody has can be acquired one after the other. -/
theorem acquire_serves (h : Serves reset.name bootSelect.name false bank) :
    let first := memoryHardware.acquire reset bank
    let second := memoryHardware.acquire bootSelect first.world
    let pair := LinePair.inMemory reset bootSelect
    first.outcome = .done pair.reset ∧ second.outcome = .done pair.bootSelect ∧
      Serves reset.name bootSelect.name true second.world := by
  let middle := bank.put reset.name ⟨reset.initial, reset.polarity, true⟩
  have hfirst : memoryHardware.acquire reset bank = ⟨.done _, middle, []⟩ :=
    MemoryLine.acquire_eq h.resetAllowed h.resetHeld
  have hstillFree : middle.heldAt bootSelect.name = false := by
    rw [heldAt_put, if_neg hne.symm, h.bootSelectHeld]
  have hsecond : memoryHardware.acquire bootSelect middle = _ :=
    MemoryLine.acquire_eq h.bootSelectAllowed hstillFree
  dsimp only
  rw [hfirst, hsecond]
  refine ⟨rfl, rfl, ⟨?_, ?_, h.resetAllowed, h.bootSelectAllowed⟩⟩
  · rw [heldAt_put, if_neg hne, heldAt_put, if_pos rfl]
  · rw [heldAt_put, if_pos rfl]

/-- Two lines that are held can be given back one after the other. -/
theorem release_serves (h : Serves reset.name bootSelect.name true bank) :
    let pair := LinePair.inMemory reset bootSelect
    let first := memoryHardware.release pair.reset bank
    let second := memoryHardware.release pair.bootSelect first.world
    first.outcome = .done () ∧ second.outcome = .done () ∧
      Serves reset.name bootSelect.name false second.world ∧
      MemoryBank.Knows pair second.world := by
  obtain ⟨entry, hfirst⟩ := (LinePair.inMemory reset bootSelect).reset.release_eq h.resetHeld
  let middle := bank.put reset.name { entry with held := false }
  have hstillHeld : middle.heldAt bootSelect.name = true := by
    rw [heldAt_put, if_neg hne.symm, h.bootSelectHeld]
  obtain ⟨entry', hsecond⟩ :=
    (LinePair.inMemory reset bootSelect).bootSelect.release_eq hstillHeld
  let later := middle.put bootSelect.name { entry' with held := false }
  have hfirst' : memoryHardware.release (LinePair.inMemory reset bootSelect).reset bank =
    ⟨.done (), middle, []⟩ := hfirst
  have hsecond' : memoryHardware.release (LinePair.inMemory reset bootSelect).bootSelect middle =
    ⟨.done (), later, []⟩ := hsecond
  dsimp only
  rw [hfirst', hsecond']
  refine ⟨rfl, rfl, ⟨?_, ?_, h.resetAllowed, h.bootSelectAllowed⟩, ?_, ?_⟩
  · rw [heldAt_put, if_neg hne, heldAt_put, if_pos rfl]
  · rw [heldAt_put, if_pos rfl]
  · change (later.entryAt reset.name).isSome
    rw [entryAt_put, if_neg hne, entryAt_put, if_pos rfl]
    rfl
  · change (later.entryAt bootSelect.name).isSome
    rw [entryAt_put, if_pos rfl]
    rfl

/-- Two lines in memory are dependable that nobody else has. -/
theorem dependable_memory :
    let pair := LinePair.inMemory reset bootSelect
    pair.Dependable memoryHardware reset bootSelect (MemoryBank.levels pair)
      (Serves reset.name bootSelect.name false) (Serves reset.name bootSelect.name true)
      (MemoryBank.Knows pair) where
  settles := settles_memory hne
  keeps := Hardware.keeps_of_still memoryHardware_still fun line level _ h => h.set line level
  wait _ _ := rfl
  acquire h := acquire_serves hne h
  drivable h command := by
    have hknows : MemoryBank.Knows (LinePair.inMemory reset bootSelect) _ :=
      ⟨MemoryBank.isSome_of_heldAt h.resetHeld, MemoryBank.isSome_of_heldAt h.bootSelectHeld⟩
    exact ((reliable_memory hne).drive hknows command).1
  release {bank} h _ := by
    have hshown : (LinePair.inMemory reset bootSelect).Shown memoryHardware _ := shown_memory hne
    have hlevels := (hshown.release_bootSelect _).trans (hshown.release_reset bank)
    obtain ⟨hfirst, hsecond, hfree, hknows⟩ := release_serves hne h
    exact ⟨hfirst, hsecond, hfree, hknows, hlevels⟩

end Memory

/-! ## Behind files -/

/-- The lines behind files that two requests are for. -/
def LinePair.onFiles (gpioClass : Files.Path) (reset bootSelect : LineRequest) (gpio gpio' : Nat) :
    LinePair SysfsLine :=
  ⟨.ofGpio gpioClass reset.name gpio reset.polarity,
    .ofGpio gpioClass bootSelect.name gpio' bootSelect.polarity⟩

/-- Setting a line leaves every file in its place. -/
theorem SysfsLine.set_preserves (line : SysfsLine) (level : Level) (tree : Files.FileTree) :
    tree.Preserves (line.set level tree).world := by
  obtain hfile | ⟨failure, hrun⟩ := Files.write_cases tree line.value (digit_ne_empty level)
  · obtain ⟨later, hrun, -, hkept, -⟩ := set_eq hfile level
    rwa [hrun]
  · rw [set, hrun]
    exact .refl tree

section Files

open Files (FileTree Path)
open SysfsLine (Exported acquire_exported release_exported set_eq)

variable {gpioClass : Path} {reset bootSelect : LineRequest} {gpio gpio' : Nat} {tree : FileTree}

/-- Two lines that are exported can be acquired one after the other. -/
theorem acquire_pair (hreset : reset.gpio = some gpio) (hbootSelect : bootSelect.gpio = some gpio')
    (h : Exported gpioClass gpio tree) (h' : Exported gpioClass gpio' tree) :
    let first := (sysfsHardware gpioClass).acquire reset tree
    let second := (sysfsHardware gpioClass).acquire bootSelect first.world
    let pair := LinePair.onFiles gpioClass reset bootSelect gpio gpio'
    first.outcome = .done pair.reset ∧ second.outcome = .done pair.bootSelect ∧
      tree.Preserves second.world := by
  obtain ⟨result, hfirst, rfl, hmiddle⟩ := acquire_exported h hreset
  obtain ⟨result', hsecond, rfl, hlater⟩ :=
    acquire_exported (h'.of_preserves hmiddle) hbootSelect
  exact ⟨hfirst, hsecond, hmiddle.trans hlater⟩

/-- Two lines with files can be driven. -/
theorem drive_holdsFile {pair : LinePair SysfsLine} (h : tree.HoldsFile pair.reset.value)
    (h' : tree.HoldsFile pair.bootSelect.value) (command : Command) :
    ((sysfsHardware gpioClass).exec (pair.drive command) tree).outcome = .done () := by
  obtain ⟨middle, hfirst, -, hkept, -⟩ := set_eq h command.resetLevel
  obtain ⟨later, hsecond, -, -, -⟩ := set_eq (hkept.holdsFile h') command.bootSelectLevel
  have hrun : (sysfsHardware gpioClass).set pair.reset command.resetLevel tree =
    ⟨.done (), middle, []⟩ := hfirst
  rw [LinePair.exec_drive, Action.bind_done hrun]
  exact congrArg Run.outcome hsecond

/-- Two lines that are exported can be given back one after the other, and keep their levels. -/
theorem release_pair (h : Exported gpioClass gpio tree) (h' : Exported gpioClass gpio' tree) :
    let pair := LinePair.onFiles gpioClass reset bootSelect gpio gpio'
    let first := (sysfsHardware gpioClass).release pair.reset tree
    let second := (sysfsHardware gpioClass).release pair.bootSelect first.world
    first.outcome = .done () ∧ second.outcome = .done () ∧ tree.Preserves second.world ∧
      (pair.HasLevels tree →
        pair.HasLevels second.world ∧ pair.fileLevels second.world = pair.fileLevels tree) := by
  intro pair first second
  obtain ⟨result, hfirst, rfl, hmiddle, hlevels⟩ :=
    release_exported h reset.name reset.polarity
  obtain ⟨result', hsecond, rfl, hlater, hlevels'⟩ :=
    release_exported (h'.of_preserves hmiddle) bootSelect.name bootSelect.polarity
  refine ⟨hfirst, hsecond, hmiddle.trans hlater, ?_⟩
  rintro ⟨level, level', hat, hat'⟩
  have hreset : pair.reset.IsAt level second.world :=
    hlevels' _ _ _ _ (hlevels _ _ _ _ hat)
  have hbootSelect : pair.bootSelect.IsAt level' second.world :=
    hlevels' _ _ _ _ (hlevels _ _ _ _ hat')
  refine ⟨⟨level, level', hreset, hbootSelect⟩, ?_⟩
  rw [LinePair.fileLevels_eq hreset hbootSelect, LinePair.fileLevels_eq hat hat']

/-- Two lines behind files are dependable that are exported. -/
theorem dependable_sysfs (hreset : reset.gpio = some gpio)
    (hbootSelect : bootSelect.gpio = some gpio') (hne : gpio ≠ gpio') :
    let pair := LinePair.onFiles gpioClass reset bootSelect gpio gpio'
    let exported (tree : FileTree) :=
      Exported gpioClass gpio tree ∧ Exported gpioClass gpio' tree
    pair.Dependable (sysfsHardware gpioClass) reset bootSelect pair.fileLevels exported exported
      pair.HasLevels where
  settles := settles_ofGpio hne ..
  keeps := Hardware.keeps_of_still (sysfsHardware_still gpioClass) fun line level tree h =>
    have hkept : tree.Preserves _ := line.set_preserves level tree
    ⟨h.1.of_preserves hkept, h.2.of_preserves hkept⟩
  wait _ _ := rfl
  drivable h command := by
    refine drive_holdsFile ?_ ?_ command
    · exact SysfsLine.value_ofGpio gpioClass _ gpio _ ▸ h.1.value
    · exact SysfsLine.value_ofGpio gpioClass _ gpio' _ ▸ h.2.value
  acquire h :=
    have ⟨hfirst, hsecond, hkept⟩ := acquire_pair hreset hbootSelect h.1 h.2
    ⟨hfirst, hsecond, h.1.of_preserves hkept, h.2.of_preserves hkept⟩
  release h hknown :=
    have ⟨hfirst, hsecond, hkept, hlevels⟩ := release_pair h.1 h.2
    have ⟨hknown', hsame⟩ := hlevels hknown
    ⟨hfirst, hsecond, ⟨h.1.of_preserves hkept, h.2.of_preserves hkept⟩, hknown', hsame⟩

end Files

end CoprocReset
