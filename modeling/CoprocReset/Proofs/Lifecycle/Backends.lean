import CoprocReset.Proofs.Lifecycle.Attribute
import CoprocReset.Proofs.Lifecycle.Twins

/-!
# Files in place of memory

A lifecycle behind files is the twin of one in memory, as long as both lines are exported, whatever
their files hold at first. So nobody can tell the two apart, and from the first attachment on the two
value files hold the levels of the table (`files_like_memory`).
-/

namespace CoprocReset

open Files (FileTree Path)
open SysfsLine (Exported valuePath)

namespace Lifecycle

variable {P : Type}

/-- How a device behind files is attached. -/
def onFiles (gpioClass : Path) (target : Target) (publisher : Publisher P)
    (reset bootSelect : LineSettings) : Lifecycle FileTree SysfsLine P where
  hardware := sysfsHardware gpioClass
  publisher := publisher
  target := target
  resetSettings := reset
  bootSelectSettings := bootSelect

/-- The value files of two lines hold the digits of the levels that the table has. -/
def LevelsAgree (gpioClass : Path) (gpio gpio' : Nat) (target : Target) (tree : FileTree)
    (bank : MemoryBank) : Prop :=
  ∃ reset bootSelect : Level,
    tree.HoldsText (valuePath gpioClass gpio) reset.digit ∧
      tree.HoldsText (valuePath gpioClass gpio') bootSelect.digit ∧
      (bank.entryAt target.resetLine).map MemoryEntry.level = some reset ∧
      (bank.entryAt target.bootSelectLine).map MemoryEntry.level = some bootSelect

variable (gpioClass : Path) (target : Target) (publisher : Publisher P)
  {reset bootSelect : LineSettings} {gpio gpio' : Nat}

/-- Lines in memory of different names. -/
def memoryFooting (hnames : target.resetLine ≠ target.bootSelectLine) :
    (inMemory target publisher reset bootSelect).Footing where
  pair := .inMemory (reset.request target.resetLine .high)
    (bootSelect.request target.bootSelectLine .high)
  levels := _
  free := _
  held := _
  known := _
  dependable := dependable_memory hnames

/-- Lines behind files of different numbers. -/
def filesFooting (hreset : reset.gpio = some gpio) (hbootSelect : bootSelect.gpio = some gpio')
    (hne : gpio ≠ gpio') : (onFiles gpioClass target publisher reset bootSelect).Footing where
  pair := .onFiles gpioClass (reset.request target.resetLine .high)
    (bootSelect.request target.bootSelectLine .high) gpio gpio'
  levels := _
  free := _
  held := _
  known := _
  dependable := dependable_sysfs hreset hbootSelect hne

/-- Files and memory. -/
def backends (hreset : reset.gpio = some gpio) (hbootSelect : bootSelect.gpio = some gpio')
    (hne : gpio ≠ gpio') (hnames : target.resetLine ≠ target.bootSelectLine) :
    (onFiles gpioClass target publisher reset bootSelect).Twins
      (inMemory target publisher reset bootSelect) where
  target := rfl
  publisher := rfl
  lines := filesFooting gpioClass target publisher hreset hbootSelect hne
  twinLines := memoryFooting target publisher hnames

variable {gpioClass target publisher} {tree : FileTree} {bank : MemoryBank}
  {hreset : reset.gpio = some gpio} {hbootSelect : bootSelect.gpio = some gpio'}
  {hne : gpio ≠ gpio'} {hnames : target.resetLine ≠ target.bootSelectLine}

theorem levelsAgree_of_sameLevels
    (h : (backends gpioClass target publisher hreset hbootSelect hne hnames).SameLevels tree bank) :
    LevelsAgree gpioClass gpio gpio' target tree bank := by
  obtain ⟨⟨level, level', hat, hat'⟩, hknown, hlevels⟩ := h
  have hfiles : (backends gpioClass target publisher hreset hbootSelect hne hnames).lines.levels
      tree = (level, level') := LinePair.fileLevels_eq hat hat'
  obtain ⟨hentry, hentry'⟩ := MemoryBank.knows_levels_iff.1 ⟨hknown, hlevels.trans hfiles⟩
  exact ⟨level, level', (SysfsLine.isAt_ofGpio ..).1 hat, (SysfsLine.isAt_ofGpio ..).1 hat', hentry,
    hentry'⟩

/-- Before the first attachment nobody has the lines on either side. -/
theorem linked_initial (hexported : Exported gpioClass gpio tree)
    (hexported' : Exported gpioClass gpio' tree) (kept : P) :
    (backends gpioClass target publisher hreset hbootSelect hne hnames).Linked
      ⟨.unattached, none, 0, none⟩ (.initial tree kept) (.initial .empty kept) where
  publisher := rfl
  phase := ⟨rfl, rfl⟩
  current := ⟨rfl, rfl⟩
  made := ⟨rfl, rfl⟩
  controllers _ := ⟨"", rfl, rfl⟩
  fits := ⟨⟨hexported, hexported'⟩, rfl, rfl, rfl, rfl⟩
  launched := nofun
  levels := nofun

variable (target publisher)

/-- Whatever row of acts a device goes through, behind files or in memory, every further act comes to
the same end, the phases are the same, and so is what the publisher keeps. While the device is attached
the value files hold the levels of the table, and after it was told to detach they still do. -/
theorem files_like_memory (hreset : reset.gpio = some gpio)
    (hbootSelect : bootSelect.gpio = some gpio') (hne : gpio ≠ gpio')
    (hnames : target.resetLine ≠ target.bootSelectLine) (hexported : Exported gpioClass gpio tree)
    (hexported' : Exported gpioClass gpio' tree) (kept : P) (acts : List ((α : Type) × Act P α)) :
    let behindFiles := onFiles gpioClass target publisher reset bootSelect
    let inMemory := inMemory target publisher reset bootSelect
    let files := Act.run behindFiles acts (.initial tree kept)
    let memory := Act.run inMemory acts (.initial .empty kept)
    let agree := LevelsAgree gpioClass gpio gpio' target files.world memory.world
    (∀ {α : Type} (act : Act P α),
        (act.action behindFiles files).outcome = (act.action inMemory memory).outcome) ∧
      files.phase = memory.phase ∧ files.publisher = memory.publisher ∧
      (files.phase = .attached → agree) ∧
      ∀ earlier later, acts = earlier ++ ⟨Unit, .detach⟩ :: later →
        (Act.run behindFiles earlier (.initial tree kept)).phase = .attached → agree := by
  intro behindFiles inMemory files memory agree
  let twins := backends gpioClass target publisher hreset hbootSelect hne hnames
  have hinitial : twins.Linked ⟨.unattached, none, 0, none⟩ (.initial tree kept)
    (.initial .empty kept) := linked_initial hexported hexported' kept
  have hproper : Standing.Proper ⟨.unattached, none, 0, none⟩ := ⟨fun _ => rfl, nofun⟩
  obtain ⟨now, -, hnow, hlinked⟩ := Act.follows_run hinitial hproper acts
  have hagree (earlier later : List ((α : Type) × Act P α)) (hacts : acts = earlier ++ later)
      (hattached : (Act.run behindFiles earlier (.initial tree kept)).phase = .attached) : agree := by
    obtain ⟨before, -, hbefore, hthen⟩ := Act.follows_run hinitial hproper earlier
    obtain ⟨handle, hholder, -⟩ := hbefore.attached (hthen.phase.1.symm.trans hattached)
    have hlaunched : 0 < before.made := hthen.launched handle hholder
    obtain ⟨after, hmade, -, hafter⟩ := Act.follows_run hthen hbefore later
    have hlevels := hafter.levels (Nat.lt_of_lt_of_le hlaunched hmade)
    rw [← Act.run_append, ← Act.run_append, ← hacts] at hlevels
    exact levelsAgree_of_sameLevels hlevels
  refine ⟨fun act => (Act.alike hlinked hnow act).1.symm, ?_, hlinked.publisher.symm, ?_, ?_⟩
  · exact hlinked.phase.1.trans hlinked.phase.2.symm
  · exact hagree acts [] (List.append_nil acts).symm
  · exact fun earlier later hacts => hagree earlier _ hacts

/-- The files of two exported lines. Nothing is known of their levels. -/
def twoLines : FileTree where
  entries :=
    [(["gpio"], .directory), (["gpio", "unexport"], .file ByteArray.empty),
      (["gpio", "gpio160"], .directory), (["gpio", "gpio160", "active_low"], .file ByteArray.empty),
      (["gpio", "gpio160", "direction"], .file ByteArray.empty),
      (["gpio", "gpio160", "value"], .file "x".toUTF8),
      (["gpio", "gpio161"], .directory), (["gpio", "gpio161", "active_low"], .file ByteArray.empty),
      (["gpio", "gpio161", "direction"], .file ByteArray.empty),
      (["gpio", "gpio161", "value"], .file "y".toUTF8)]

theorem exported_twoLines {gpio : Nat} (h : gpio = 160 ∨ gpio = 161) :
    Exported ⟨"/gpio"⟩ gpio twoLines := by
  obtain rfl | rfl := h <;> exact ⟨rfl, ⟨_, _, rfl⟩, ⟨_, _, rfl⟩, ⟨_, _, rfl⟩, ⟨_, _, rfl⟩⟩

/-- A device behind files is attached, held in reset and detached. -/
def oneRound : List ((α : Type) × Act Bench.Board α) :=
  [⟨_, .attach⟩, ⟨_, .ask 0 (.store "0")⟩, ⟨_, .detach⟩]

/-- After that its files hold the levels that the table in memory has. -/
theorem files_like_memory_oneRound :
    LevelsAgree ⟨"/gpio"⟩ 160 161 .portenta
      (Act.run (onFiles ⟨"/gpio"⟩ .portenta Bench.boardPublisher ⟨some 160, .activeLow⟩
        ⟨some 161, .activeHigh⟩) oneRound (.initial twoLines .empty)).world
      (Act.run (inMemory .portenta Bench.boardPublisher ⟨some 160, .activeLow⟩
        ⟨some 161, .activeHigh⟩) oneRound (.initial .empty .empty)).world := by
  have hreset : LineSettings.gpio ⟨some 160, .activeLow⟩ = some 160 := rfl
  have hbootSelect : LineSettings.gpio ⟨some 161, .activeHigh⟩ = some 161 := rfl
  obtain ⟨-, -, -, -, hdetached⟩ := files_like_memory .portenta Bench.boardPublisher hreset
    hbootSelect (by decide) (by decide) (exported_twoLines (.inl rfl))
    (exported_twoLines (.inr rfl)) .empty oneRound
  exact hdetached [⟨_, .attach⟩, ⟨_, .ask 0 (.store "0")⟩] [] rfl (by decide +kernel)

end Lifecycle

end CoprocReset
