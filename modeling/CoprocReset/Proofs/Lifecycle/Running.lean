import CoprocReset.Daemon.Service
import CoprocReset.Proofs.Lifecycle.Launch
import CoprocReset.Proofs.Line.Machine

/-!
# What an attached device tells

A device that was attached as settings say runs, and its publisher has seen it run, unless the two
lines of the settings are one (`attached_tells`). Nothing keeps settings from giving both lines one
number, and lines behind files are not refused for being taken: then the attachment is a success, and
the device tells no clear state.
-/

namespace CoprocReset

/-- How the device of the settings is attached with a publisher of any kind. -/
def Settings.lifecycle {P : Type} (settings : Settings) (target : Target)
    (publisher : Publisher P) : Lifecycle Machine MachineLine P where
  hardware := Machine.hardware settings.backend settings.gpioClass
  publisher := publisher
  target := target
  resetSettings := settings.reset
  bootSelectSettings := settings.bootSelect

theorem Daemon.lifecycle_eq (settings : Settings) (target : Target) :
    Daemon.lifecycle settings target = settings.lifecycle target Bus.busPublisher := rfl

namespace Lifecycle

variable {P : Type}

/-- Two lines that are not one run after an attachment, and everything that the publisher has seen of
the controller says so. One line in place of two is in no clear state, and that is what the publisher
has seen. -/
theorem attached_tells (settings : Settings) (target : Target) {publisher : Publisher P}
    (hlooks : ∀ name handle, (publisher.publish name handle).All PublisherCall.Looks)
    {station : Station Machine MachineLine P} {handle : Handle}
    (hdone : ((settings.lifecycle target publisher).attach station).outcome = .done handle) :
    let lifecycle := settings.lifecycle target publisher
    let state : LogicalState :=
      if settings.backend = .sysfs ∧ settings.reset.gpio = settings.bootSelect.gpio then
        .indeterminate
      else .running
    let launched := lifecycle.launch { station with phase := .attaching }
    let publish := publisher.publish target.attributeName handle
    let attached := lifecycle.attach station
    launched.outcome = .done handle ∧
      (Publisher.exec lifecycle.hardware publish launched.world).outcome = .done () ∧
      (∀ sight ∈ Publisher.seen lifecycle.hardware publish launched.world,
        sight.Shows handle state) ∧
      (Station.request lifecycle.hardware handle .read attached.world).outcome = .done state ∧
      (Station.request lifecycle.hardware handle .content attached.world).outcome =
        .done (toString state.code ++ "\n") := by
  intro lifecycle state launched publish attached
  have hstill : lifecycle.hardware.Still := Machine.hardware_still _ _
  obtain ⟨hlaunched, -, hpublished, -⟩ := of_attach hdone
  obtain ⟨pair, before, hacquires, hdriven, hworld, hholding, hattached⟩ :=
    of_attach_looks hstill hlooks hdone
  have htells : pair.Tells lifecycle.hardware state launched.world.world := by
    rw [show launched.world.world = _ from hworld]
    exact Machine.tells_of_acquire hacquires.reset hacquires.bootSelect hdriven
  have hattachedWorld : attached.world.world = launched.world.world :=
    (congrArg Station.world hattached).trans rfl
  have hattachedHolding : attached.world.controllers handle =
      ⟨target.attributeName, .holding pair⟩ :=
    (congrFun (congrArg Station.controllers hattached) handle).trans hholding
  refine ⟨hlaunched, hpublished, ?_, ?_, ?_⟩
  · have hcalm (message : String) : (Publisher.exec lifecycle.hardware publish
        launched.world).outcome ≠ .crashed message := fun hcrashed =>
      nomatch hpublished.symm.trans hcrashed
    exact Station.seen_shows hstill (hlooks _ _) hholding htells hcalm
  · exact Station.request_read_of_tells hattachedHolding (hattachedWorld ▸ htells)
  · exact Station.request_content_of_tells hattachedHolding (hattachedWorld ▸ htells)

/-- Settings that give both lines one number. -/
def oneNumber : Settings where
  compatible := "portenta,x8h7rst"
  backend := .sysfs
  gpioClass := ⟨"/gpio"⟩
  reset := ⟨some 160, .activeHigh⟩
  bootSelect := ⟨some 160, .activeHigh⟩

/-- The files of one exported line. -/
def oneLine : Files.FileTree where
  entries :=
    [(["gpio"], .directory), (["gpio", "gpio160"], .directory),
      (["gpio", "gpio160", "active_low"], .file ByteArray.empty),
      (["gpio", "gpio160", "direction"], .file ByteArray.empty),
      (["gpio", "gpio160", "value"], .file ByteArray.empty)]

/-- With one number for both lines the device is attached, and reads as indeterminate. -/
theorem attached_tells_oneNumber :
    let lifecycle := oneNumber.lifecycle .portenta Bench.boardPublisher
    let attached := lifecycle.attach (.initial ⟨oneLine, .empty⟩ .empty)
    attached.outcome = .done 0 ∧
      (Station.request lifecycle.hardware 0 .read attached.world).outcome = .done .indeterminate := by
  have hdone : ((oneNumber.lifecycle .portenta Bench.boardPublisher).attach
      (.initial ⟨oneLine, .empty⟩ .empty)).outcome = .done 0 := by rfl
  obtain ⟨-, -, -, hread, -⟩ :=
    attached_tells oneNumber .portenta Bench.boardPublisher_looks hdone
  exact ⟨hdone, hread⟩

end Lifecycle

end CoprocReset
