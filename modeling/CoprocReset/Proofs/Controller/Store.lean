import CoprocReset.Proofs.Bus.Calls
import CoprocReset.Proofs.Command
import CoprocReset.Proofs.Line.Faithful

/-!
# How a write to an attribute ends

A write can be stopped in five places: the lock is poisoned, the lines are gone, the text is no
command, the reset line refuses, the boot-select line refuses. `StoreEnd` has them in the order in
which they are met, and `Applies` says what each of them is. Exactly one end applies to a write, and
with it the result, the calls on the lines, their levels, and what a caller on the bus is told
(`store_ends`).
-/

namespace CoprocReset

/-- How a write to an attribute ends: the first thing that stops it, or what it carries out. -/
inductive StoreEnd (L : Type) where
  | poisoned
  | vacant
  | rejected (text : String)
  | resetRefused (pair : LinePair L) (command : Command) (failure : Failure)
  | bootSelectRefused (pair : LinePair L) (command : Command) (failure : Failure)
  | carriedOut (pair : LinePair L) (command : Command)

namespace StoreEnd

variable {W L : Type}

/-- The write of the text to the controller in the world ends like this. -/
def Applies (hw : Hardware W L) (controller : Controller L) (input : String) (world : W) :
    StoreEnd L → Prop
  | .poisoned => controller.custody = .poisoned
  | .vacant => controller.custody = .vacant
  | .rejected text =>
    (∃ pair, controller.custody = .holding pair) ∧
      Command.parse input = .error (.invalidCommand text)
  | .resetRefused pair command failure =>
    controller.custody = .holding pair ∧ Command.parse input = .ok command ∧
      (hw.set pair.reset command.resetLevel world).outcome = .failed failure
  | .bootSelectRefused pair command failure =>
    controller.custody = .holding pair ∧ Command.parse input = .ok command ∧
      (hw.set pair.reset command.resetLevel world).outcome = .done () ∧
      (hw.set pair.bootSelect command.bootSelectLevel
        (hw.set pair.reset command.resetLevel world).world).outcome = .failed failure
  | .carriedOut pair command =>
    controller.custody = .holding pair ∧ Command.parse input = .ok command ∧
      (hw.set pair.reset command.resetLevel world).outcome = .done () ∧
      (hw.set pair.bootSelect command.bootSelectLevel
        (hw.set pair.reset command.resetLevel world).world).outcome = .done ()

/-- What comes of the write. -/
def result (controller : Controller L) (input : String) : StoreEnd L → Except Failure Nat
  | .poisoned => .error controller.lockPoisoned
  | .vacant => .error controller.notReady
  | .rejected text => .error (.invalidCommand text)
  | .resetRefused _ _ failure | .bootSelectRefused _ _ failure => .error failure
  | .carriedOut _ _ => .ok input.utf8ByteSize

/-- The world after the calls that were made on lines: none, one or two. -/
def worldAfter (hw : Hardware W L) (world : W) : StoreEnd L → W
  | .poisoned | .vacant | .rejected _ => world
  | .resetRefused pair command _ => (hw.set pair.reset command.resetLevel world).world
  | .bootSelectRefused pair command _ | .carriedOut pair command =>
    (hw.set pair.bootSelect command.bootSelectLevel
      (hw.set pair.reset command.resetLevel world).world).world

/-- The levels of the lines afterwards. -/
def levelsAfter (before : Level × Level) : StoreEnd L → Level × Level
  | .poisoned | .vacant | .rejected _ | .resetRefused .. => before
  | .bootSelectRefused _ command _ => (command.resetLevel, before.2)
  | .carriedOut _ command => command.levels

/-- Why a line refused to be set. -/
def refusal? : StoreEnd L → Option Failure
  | .resetRefused _ _ failure | .bootSelectRefused _ _ failure => some failure
  | _ => none

variable {hw : Hardware W L} {controller : Controller L} {input : String} {world : W}

/-- Some end applies, as long as the lines answer. -/
theorem exists_applies (hcalm : ∀ line level, (hw.set line level).Calm) (controller : Controller L)
    (input : String) (world : W) :
    ∃ ending : StoreEnd L, ending.Applies hw controller input world := by
  rcases hcustody : controller.custody with pair | _ | _
  case vacant => exact ⟨.vacant, hcustody⟩
  case poisoned => exact ⟨.poisoned, hcustody⟩
  rcases hparse : Command.parse input with failure | command
  case error =>
    obtain ⟨text, rfl⟩ := Command.parse_error hparse
    exact ⟨.rejected text, ⟨pair, hcustody⟩, hparse⟩
  rcases hreset : (hw.set pair.reset command.resetLevel world).outcome with _ | failure | message
  case failed => exact ⟨.resetRefused pair command failure, hcustody, hparse, hreset⟩
  case crashed => exact absurd hreset (hcalm _ _ _ _)
  rcases hbootSelect : (hw.set pair.bootSelect command.bootSelectLevel
    (hw.set pair.reset command.resetLevel world).world).outcome with _ | failure | message
  case done => exact ⟨.carriedOut pair command, hcustody, hparse, hreset, hbootSelect⟩
  case failed =>
    exact ⟨.bootSelectRefused pair command failure, hcustody, hparse, hreset, hbootSelect⟩
  case crashed => exact absurd hbootSelect (hcalm _ _ _ _)

/-- No two ends apply to one write. -/
theorem Applies.unique {first second : StoreEnd L} (h : first.Applies hw controller input world)
    (h' : second.Applies hw controller input world) : second = first := by
  cases first <;> cases second <;> simp only [Applies] at h h' <;> grind

/-! ## The controller -/

/-- What is done with the lines comes to the end that applies. -/
theorem delivers_drive {name called : String} {pair : LinePair L} {command : Command}
    {ending : StoreEnd L} (hparse : Command.parse input = .ok command)
    (h : (hw.exec (pair.drive command)).Delivers world fun result later =>
      (result.map fun _ => input.utf8ByteSize) = ending.result ⟨name, .holding pair⟩ input ∧
        later = ending.worldAfter hw world) :
    (Controller.exec hw (Controller.store called input)).Delivers (world, ⟨name, .holding pair⟩)
      fun result later => result = ending.result ⟨name, .holding pair⟩ input ∧
        later = (ending.worldAfter hw world, ⟨name, .holding pair⟩) := by
  refine Controller.delivers_store (fun failure hfailed => ?_) fun other hother => ?_
  · rw [hparse] at hfailed
    cases hfailed
  · rw [hparse] at hother
    cases hother
    exact h.mono fun result later hlater => ⟨hlater.1, by rw [hlater.2]⟩

/-- The write comes to the end that applies, and the controller is as it was. -/
theorem Applies.delivers_store {ending : StoreEnd L}
    (h : ending.Applies hw controller input world) :
    (Controller.exec hw (Controller.store controller.name input)).Delivers (world, controller)
      fun result later =>
        result = ending.result controller input ∧
          later = (ending.worldAfter hw world, controller) := by
  have hrefused {failure : Failure} (hrefusal : controller.refusal? = some failure) :
      (Controller.exec hw (Controller.store controller.name input)).Delivers (world, controller)
        fun result later => result = .error failure ∧ later = (world, controller) := by
    have hrun : Controller.exec hw (Controller.store controller.name input) (world, controller) =
        ⟨.failed failure, (world, controller), []⟩ :=
      Controller.exec_refused hrefusal controller.name (.request (.store input))
    exact ⟨.error failure, congrArg Run.outcome hrun, rfl, congrArg Run.world hrun⟩
  obtain ⟨name, custody⟩ := controller
  cases ending with
  | poisoned =>
    obtain rfl : custody = .poisoned := h
    exact hrefused rfl
  | vacant =>
    obtain rfl : custody = .vacant := h
    exact hrefused rfl
  | rejected text =>
    obtain ⟨⟨pair, hcustody⟩, hparse⟩ := h
    obtain rfl : custody = .holding pair := hcustody
    refine Controller.delivers_store (fun failure hfailed => ⟨?_, rfl⟩) fun command haccepted => ?_
    · rw [hparse] at hfailed
      cases hfailed
      rfl
    · rw [hparse] at haccepted
      cases haccepted
  | resetRefused pair command failure =>
    obtain ⟨hcustody, hparse, hreset⟩ := h
    obtain rfl : custody = .holding pair := hcustody
    refine delivers_drive hparse ?_
    rw [LinePair.exec_drive]
    exact .bind ⟨.error failure, hreset, rfl, rfl⟩
  | bootSelectRefused pair command failure =>
    obtain ⟨hcustody, hparse, hreset, hbootSelect⟩ := h
    obtain rfl : custody = .holding pair := hcustody
    refine delivers_drive hparse ?_
    rw [LinePair.exec_drive]
    exact .bind ⟨.ok (), hreset, .error failure, hbootSelect, rfl, rfl⟩
  | carriedOut pair command =>
    obtain ⟨hcustody, hparse, hreset, hbootSelect⟩ := h
    obtain rfl : custody = .holding pair := hcustody
    refine delivers_drive hparse ?_
    rw [LinePair.exec_drive]
    exact .bind ⟨.ok (), hreset, .ok (), hbootSelect, rfl, rfl⟩

/-- On lines that do what they are told or nothing, the levels are those of the end. -/
theorem Applies.levels_eq {ending : StoreEnd L} (h : ending.Applies hw controller input world)
    {pair : LinePair L} {levels : W → Level × Level} (hholding : controller.custody = .holding pair)
    (hlevels : pair.Faithful hw levels) :
    levels (ending.worldAfter hw world) = ending.levelsAfter (levels world) := by
  have hpair {other : LinePair L} (hother : controller.custody = .holding other) :
      other = pair := by
    rw [hholding] at hother
    cases hother
    rfl
  cases ending with
  | poisoned => rfl
  | vacant => rfl
  | rejected text => rfl
  | resetRefused other command failure =>
    obtain ⟨hcustody, -, hreset⟩ := h
    obtain rfl := hpair hcustody
    exact hlevels.reset_not_set hreset
  | bootSelectRefused other command failure =>
    obtain ⟨hcustody, -, hreset, hbootSelect⟩ := h
    obtain rfl := hpair hcustody
    exact (hlevels.bootSelect_not_set hbootSelect).trans (hlevels.set_reset hreset)
  | carriedOut other command =>
    obtain ⟨hcustody, -, hreset, hbootSelect⟩ := h
    obtain rfl := hpair hcustody
    have hmiddle := hlevels.set_reset hreset
    exact (hlevels.set_bootSelect hbootSelect).trans (by rw [hmiddle]; rfl)

/-! ## The caller on the bus -/

/-- What the caller is told of the end. -/
def answer (controller : Controller L) (input : String) (ending : StoreEnd L) : Bus.Answer Nat :=
  (ending.result controller input).mapError Failure.reply

/-- The name of the error that the caller gets, if it is one. -/
def errorName? (controller : Controller L) (input : String) (ending : StoreEnd L) :
    Option String :=
  match ending.answer controller input with
  | .ok _ => none
  | .error reply => some reply.name

/-- A call on the bus makes the write, and changes nothing else. -/
theorem Applies.delivers_write {ending : StoreEnd L}
    (h : ending.Applies hw controller input world) :
    (Controller.exec hw ((Bus.InterfaceCall.write input).script controller.name)).Delivers
      (world, controller) fun result later =>
        result = .ok (ending.answer controller input) ∧
          later = (ending.worldAfter hw world, controller) := by
  rw [Bus.InterfaceCall.script_eq, Controller.exec, Script.exec_bind]
  refine .bind (Controller.delivers_noted ?_)
  refine (Bus.delivers_answering h.delivers_store).mono ?_
  rintro _ _ ⟨_, rfl, rfl, rfl⟩
  exact ⟨rfl, rfl⟩

theorem replyName_of_plain {failure : Failure}
    (h : failure.isIo = true ∨ failure.isInternal = true) :
    failure.replyName =
      if failure.isIo then "org.freedesktop.DBus.Error.IOError"
      else "org.freedesktop.DBus.Error.Failed" := by
  cases failure <;> simp_all [Failure.isIo, Failure.isInternal, Failure.replyName]

/-- A line that refuses does so plainly. -/
theorem Applies.plain {ending : StoreEnd L} (h : ending.Applies hw controller input world)
    (hplain : hw.RefusesPlainly) {failure : Failure} (hrefusal : ending.refusal? = some failure) :
    failure.isIo = true ∨ failure.isInternal = true := by
  cases ending with
  | resetRefused pair command cause =>
    cases hrefusal
    exact hplain _ _ _ _ h.2.2
  | bootSelectRefused pair command cause =>
    cases hrefusal
    exact hplain _ _ _ _ h.2.2.2
  | poisoned => cases hrefusal
  | vacant => cases hrefusal
  | rejected text => cases hrefusal
  | carriedOut pair command => cases hrefusal

/-- The caller is told apart what it did wrong, what a file did, and everything else. -/
theorem Applies.errorName_eq {ending : StoreEnd L} (h : ending.Applies hw controller input world)
    (hplain : hw.RefusesPlainly) :
    ending.errorName? controller input =
      match ending with
      | .rejected _ => some "org.freedesktop.DBus.Error.InvalidArgs"
      | .poisoned | .vacant => some "org.freedesktop.DBus.Error.Failed"
      | .resetRefused _ _ failure | .bootSelectRefused _ _ failure =>
        if failure.isIo then some "org.freedesktop.DBus.Error.IOError"
        else some "org.freedesktop.DBus.Error.Failed"
      | .carriedOut _ _ => none := by
  have hname {failure : Failure} (hrefusal : ending.refusal? = some failure) :
      some failure.replyName =
        if failure.isIo then some "org.freedesktop.DBus.Error.IOError"
        else some "org.freedesktop.DBus.Error.Failed" := by
    rw [replyName_of_plain (h.plain hplain hrefusal)]
    split <;> rfl
  cases ending with
  | resetRefused pair command failure => exact hname rfl
  | bootSelectRefused pair command failure => exact hname rfl
  | poisoned => rfl
  | vacant => rfl
  | rejected text => rfl
  | carriedOut pair command => rfl

/-- Exactly one end applies to a write. It gives the result, the calls that were made on lines, in
their order, and the levels after them; the controller stays as it is. A caller on the bus gets the
result, or an error with its message, by whose name it can tell an unreadable text and a file that
could not be written from everything else. -/
theorem store_ends (hcalm : ∀ line level, (hw.set line level).Calm) (controller : Controller L)
    (input : String) (world : W) :
    let stored := Controller.exec hw (Controller.store controller.name input) (world, controller)
    let written := Controller.exec hw ((Bus.InterfaceCall.write input).script controller.name)
      (world, controller)
    ∃ ending : StoreEnd L, ending.Applies hw controller input world ∧
      (∀ other : StoreEnd L, other.Applies hw controller input world → other = ending) ∧
      stored.outcome = .ofExcept (ending.result controller input) ∧
      stored.world = (ending.worldAfter hw world, controller) ∧
      (∀ pair levels, controller.custody = .holding pair → pair.Faithful hw levels →
        levels stored.world.1 = ending.levelsAfter (levels world)) ∧
      written.outcome = .done ((ending.result controller input).mapError fun failure =>
        ⟨failure.replyName, some failure.message⟩) ∧
      written.world = stored.world ∧
      (hw.RefusesPlainly →
        (ending.errorName? controller input = some "org.freedesktop.DBus.Error.InvalidArgs" ↔
          ∃ text, ending = .rejected text) ∧
        (ending.errorName? controller input = some "org.freedesktop.DBus.Error.IOError" ↔
          ∃ failure, ending.refusal? = some failure ∧ failure.isIo = true) ∧
        (ending.errorName? controller input = some "org.freedesktop.DBus.Error.Failed" ↔
          ending = .poisoned ∨ ending = .vacant ∨
            ∃ failure, ending.refusal? = some failure ∧ failure.isIo = false) ∧
        (ending.errorName? controller input = none ↔
          ∃ pair command, ending = .carriedOut pair command)) := by
  intro stored written
  obtain ⟨ending, happlies⟩ := exists_applies hcalm controller input world
  obtain ⟨result, hstored, rfl, hworld⟩ := happlies.delivers_store
  obtain ⟨answer, hwritten, rfl, hworld'⟩ := happlies.delivers_write
  refine ⟨ending, happlies, fun other => happlies.unique, hstored, hworld,
    fun pair levels hholding hlevels => ?_, hwritten, hworld'.trans hworld.symm, fun hplain => ?_⟩
  · rw [show stored.world = _ from hworld]
    exact happlies.levels_eq hholding hlevels
  · rw [happlies.errorName_eq hplain]
    cases ending with
    | resetRefused pair command failure => cases hio : failure.isIo <;> simp [refusal?, hio]
    | bootSelectRefused pair command failure => cases hio : failure.isIo <;> simp [refusal?, hio]
    | poisoned => simp [refusal?]
    | vacant => simp [refusal?]
    | rejected text => simp [refusal?]
    | carriedOut pair command => simp [refusal?]

/-- The files of two lines. That of the boot-select line takes nothing. -/
def fullBootSelect : Files.FileTree where
  entries :=
    [(["gpio"], .directory),
      (["gpio", "gpio160"], .directory), (["gpio", "gpio160", "value"], .file "1".toUTF8),
      (["gpio", "gpio161"], .directory), (["gpio", "gpio161", "value"], .fullDevice)]

/-- Those two lines. -/
def fullPair : LinePair SysfsLine where
  reset := ⟨"reset", 160, .activeHigh, ⟨"/gpio/gpio160/value"⟩, ⟨"/gpio/unexport"⟩⟩
  bootSelect := ⟨"boot_select", 161, .activeHigh, ⟨"/gpio/gpio161/value"⟩, ⟨"/gpio/unexport"⟩⟩

/-- The caller learns that a file was not written; the reset line is at its new level by then. -/
theorem store_ends_fullBootSelect :
    let controller : Controller SysfsLine := ⟨"x8h7", .holding fullPair⟩
    let written := Controller.exec (sysfsHardware ⟨"/gpio"⟩)
      ((Bus.InterfaceCall.write "0").script controller.name) (fullBootSelect, controller)
    fullPair.fileLevels fullBootSelect = (.high, .low) ∧
      fullPair.fileLevels written.world.1 = (.low, .low) ∧
      ∃ reply : ErrorReply, written.outcome = .done (.error reply) ∧
        reply.name = "org.freedesktop.DBus.Error.IOError" := by
  intro controller written
  have hlevels : fullPair.fileLevels fullBootSelect = (.high, .low) := by decide +kernel
  have hapart := SysfsLine.apart_value ⟨"/gpio"⟩ ⟨"/gpio"⟩ (show 160 ≠ 161 by decide)
  have happlies : (bootSelectRefused fullPair .hold
      (.ioWrite ⟨"/gpio/gpio161/value"⟩ "1" (.os .noSpace))).Applies (sysfsHardware ⟨"/gpio"⟩)
        controller "0" fullBootSelect :=
    ⟨rfl, by rfl, by rfl, by rfl⟩
  obtain ⟨ending, -, hunique, -, -, hafter, hanswer, hsame, -⟩ :=
    store_ends (sysfsHardware_calm ⟨"/gpio"⟩).set controller "0" fullBootSelect
  obtain rfl := hunique _ happlies
  have hlater := hafter fullPair fullPair.fileLevels rfl (faithful_sysfs hapart)
  rw [← hsame, hlevels] at hlater
  exact ⟨hlevels, hlater, _, hanswer, rfl⟩

end StoreEnd

end CoprocReset
