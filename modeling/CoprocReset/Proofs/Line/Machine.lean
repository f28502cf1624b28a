import CoprocReset.Machine
import CoprocReset.Proofs.Line.Memory
import CoprocReset.Proofs.Line.Sysfs

/-!
# Lines of a machine

What was proved of lines in memory and of lines behind files holds of them as lines of a machine
(`contains_memory`, `contains_sysfs`). Two lines that were acquired one after the other and then
driven tell the state that the command asks for, unless they are one line: lines behind files whose
numbers are the same (`tells_of_acquire`). Lines in memory are never one, since a line that is held
is not handed out again (`of_acquire_memory`).
-/

namespace CoprocReset.Machine

open Files (Path)

variable {backend : Backend} {gpioClass : Path} {request request' : LineRequest}
  {pair : LinePair MachineLine} {machine : Machine} {line : MachineLine}

theorem contains_memory (backend : Backend) (gpioClass : Path) :
    (hardware backend gpioClass).Contains memoryHardware memoryPart .memory where
  get _ := rfl
  set _ _ := rfl

theorem contains_sysfs (backend : Backend) (gpioClass : Path) :
    (hardware backend gpioClass).Contains (sysfsHardware gpioClass) filesPart .sysfs where
  get _ := rfl
  set _ _ := rfl

theorem hardware_still (backend : Backend) (gpioClass : Path) :
    (hardware backend gpioClass).Still := by
  intro line machine
  cases line with
  | sysfs line =>
    change filesPart.set ((sysfsHardware gpioClass).get line machine.files).world machine = machine
    rw [sysfsHardware_still]
    rfl
  | memory line =>
    change memoryPart.set (memoryHardware.get line machine.memory).world machine = machine
    rw [memoryHardware_still]
    rfl

/-! ## What lines tell -/

/-- The two lines are one. -/
def SameLine (backend : Backend) (reset bootSelect : LineSettings) : Prop :=
  backend = .sysfs ∧ reset.gpio = bootSelect.gpio

instance (backend : Backend) (reset bootSelect : LineSettings) :
    Decidable (SameLine backend reset bootSelect) :=
  inferInstanceAs (Decidable (_ ∧ _))

/-- The state that two lines tell once a command was carried out on them. One line in place of two
tells no clear state. -/
def told (backend : Backend) (reset bootSelect : LineSettings) (command : Command) :
    LogicalState :=
  if SameLine backend reset bootSelect then .indeterminate else command.target

/-- A line in memory that was handed out is not handed out again. -/
theorem of_acquire_memory
    (hreset : (acquire .memory gpioClass request machine).outcome = .done pair.reset)
    (hbootSelect : (acquire .memory gpioClass request'
      (acquire .memory gpioClass request machine).world).outcome = .done pair.bootSelect) :
    pair = LinePair.map .memory
        ⟨⟨request.name, request.polarity⟩, ⟨request'.name, request'.polarity⟩⟩ ∧
      request.name ≠ request'.name := by
  have hacquire (request : LineRequest) : acquire .memory gpioClass request =
      ((MemoryLine.acquire request).on memoryPart >>= fun line => pure (.memory line)) := rfl
  obtain ⟨reset, bootSelect⟩ := pair
  rw [hacquire] at hreset hbootSelect
  rw [hacquire] at hbootSelect
  obtain ⟨first, rfl, hfirst, hmiddle⟩ := Action.of_map_on hreset
  obtain ⟨second, rfl, hsecond, -⟩ := Action.of_map_on hbootSelect
  rw [hmiddle, memoryPart.get_set] at hsecond
  obtain ⟨rfl, -, hheld⟩ := MemoryLine.of_acquire hfirst
  obtain ⟨rfl, hfree, -⟩ := MemoryLine.of_acquire hsecond
  refine ⟨rfl, fun hname => ?_⟩
  rw [← hname] at hfree
  exact Bool.false_ne_true (hfree.symm.trans hheld)

/-- A line behind files is handed out by its number. -/
theorem of_acquire_sysfs (h : (acquire .sysfs gpioClass request machine).outcome = .done line) :
    ∃ gpio, request.gpio = some gpio ∧
      line = .sysfs (.ofGpio gpioClass request.name gpio request.polarity) := by
  have hacquire : acquire .sysfs gpioClass request =
      ((SysfsLine.acquire gpioClass request).on filesPart >>= fun line => pure (.sysfs line)) := rfl
  rw [hacquire] at h
  obtain ⟨inner, rfl, hinner, -⟩ := Action.of_map_on h
  have hyields := SysfsLine.yields_acquire gpioClass request (filesPart.get machine)
  obtain ⟨gpio, hgpio, rfl⟩ := hyields.done hinner inner rfl
  exact ⟨gpio, hgpio, rfl⟩

/-- Two lines that were acquired one after the other tell the state of the command that was carried
out on them. -/
theorem tells_of_acquire
    (hreset : (acquire backend gpioClass request machine).outcome = .done pair.reset)
    (hbootSelect : (acquire backend gpioClass request'
      (acquire backend gpioClass request machine).world).outcome = .done pair.bootSelect)
    {command : Command} {later : Machine}
    (hdone : ((hardware backend gpioClass).exec (pair.drive command) later).outcome = .done ()) :
    pair.Tells (hardware backend gpioClass)
      (told backend request.toLineSettings request'.toLineSettings command)
      ((hardware backend gpioClass).exec (pair.drive command) later).world := by
  cases backend with
  | memory =>
    obtain ⟨rfl, hne⟩ := of_acquire_memory hreset hbootSelect
    rw [told, if_neg (by simp [SameLine])]
    refine (contains_memory .memory gpioClass).tells_drive ?_ hdone
    exact (settles_memory hne).tells memoryHardware_still
  | sysfs =>
    obtain ⟨gpio, hgpio, hpair⟩ := of_acquire_sysfs hreset
    obtain ⟨gpio', hgpio', hpair'⟩ := of_acquire_sysfs hbootSelect
    obtain rfl : pair = LinePair.map .sysfs
        ⟨.ofGpio gpioClass request.name gpio request.polarity,
          .ofGpio gpioClass request'.name gpio' request'.polarity⟩ := by
      rw [LinePair.map, ← hpair, ← hpair']
    refine (contains_sysfs .sysfs gpioClass).tells_drive (fun hinner => ?_) hdone
    by_cases hsame : gpio = gpio'
    · rw [told, if_pos ⟨rfl, by rw [hgpio, hgpio', hsame]⟩]
      refine tells_of_same_value ?_ hinner
      rw [SysfsLine.ofGpio, SysfsLine.ofGpio, hsame]
    · rw [told, if_neg (by simp [SameLine, hgpio, hgpio', hsame])]
      exact (settles_ofGpio hsame ..).tells (sysfsHardware_still _) hinner

end CoprocReset.Machine
