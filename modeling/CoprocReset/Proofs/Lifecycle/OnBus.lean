import CoprocReset.Proofs.Bus.Calls
import CoprocReset.Proofs.Lifecycle.Backends
import CoprocReset.Proofs.Lifecycle.FailSafe

/-!
# A lifecycle that publishes on the bus

On lines that it can depend on, an attachment comes through exactly if the table of objects admits
the attribute; otherwise it leaves the table as it found it, and the lines given back with the
coprocessor held in reset (`delivers_attach_admitted`, `delivers_attach_refused`). So whatever row
of attachments, detachments and requests there is (`OnBus`), the path of the attribute serves a
controller of the lifecycle exactly while the device is attached, and then it is the current one
(`served_while_attached`).
-/

namespace CoprocReset

namespace Lifecycle

variable {W L P : Type}

/-! ## Attachments and detachments that do not crash -/

section Phases

variable {lifecycle : Lifecycle W L P} {station : Station W L P} {handle : Handle}

/-- An attachment delivers what bringing the device up delivers. -/
theorem delivers_attach (hphase : station.phase = .unattached)
    {post : Except Failure Handle → Station W L P → Prop}
    (h : lifecycle.bringUp.Delivers { station with phase := .attaching } fun result later =>
      match result with
      | .ok handle =>
        post (.ok handle) { later with current := some handle, phase := .attached }
      | .error failure => post (.error failure) { later with phase := .unattached }) :
    lifecycle.attach.Delivers station post := by
  rw [attach]
  refine .world_bind ?_
  simp only [hphase, ne_eq, not_true_eq_false, if_false]
  refine .note_bind (.update_bind (.bind (.attempt (h.mono fun result later hl => ?_))))
  cases result with
  | ok handle => exact .update_bind (.update_bind (.note_bind ((Action.delivers_pure _).2 hl)))
  | error failure => exact .note_bind (.update_bind ((Action.delivers_fail _).2 hl))

/-- A detachment delivers what taking the attribute away and tearing the controller down deliver. -/
theorem delivers_detach (hphase : station.phase = .attached)
    {post : Except Failure Unit → Station W L P → Prop}
    (h : (Publisher.exec lifecycle.hardware
        (lifecycle.publisher.unpublish lifecycle.target.attributeName)).Delivers
      { station with phase := .detaching } fun unpublished withdrawn =>
        withdrawn.current = some handle ∧
          (lifecycle.tearDown handle).Delivers { withdrawn with current := none }
            fun released later =>
              post (released >>= fun () => unpublished) { later with phase := .unattached }) :
    lifecycle.detach.Delivers station post := by
  rw [detach]
  refine .world_bind ?_
  simp only [hphase, ne_eq, not_true_eq_false, if_false]
  refine .note_bind (.update_bind (.bind (.attempt (h.mono ?_))))
  rintro unpublished withdrawn ⟨hcurrent, htorn⟩
  have hrest : (lifecycle.dismiss.attempt >>= fun released => do
      setPhase .unattached
      Action.noteInfo (lifecycle.target.attributeName ++ " detached")
      Action.ofExcept (released >>= fun () => unpublished)).Delivers withdrawn post := by
    refine .bind (.attempt ?_)
    rw [dismiss]
    refine .world_bind ?_
    simp only [hcurrent]
    refine .update_bind (htorn.mono fun released later hl => ?_)
    exact .update_bind (.note_bind ((Action.delivers_ofExcept _).2 hl))
  cases unpublished with
  | ok _ => exact hrest
  | error failure => exact .note_bind hrest

end Phases

/-! ## Lines that are launched and given back -/

section Lines

variable {lifecycle : Lifecycle W L P} (lines : lifecycle.Footing) {station : Station W L P}
  {handle : Handle} {name : String}

/-- The station whose coprocessor runs and whose controller nobody knows of yet. -/
def Footing.launched (station : Station W L P) (world : W) : Station W L P where
  world := world
  publisher := station.publisher
  controllers := Station.replace station.controllers station.made
    (.ofPair lifecycle.target.attributeName lines.pair)
  made := station.made + 1
  phase := .attaching
  current := station.current

theorem Footing.holding_launched (station : Station W L P) (world : W) :
    (lines.launched station world).controllers station.made =
      ⟨lifecycle.target.attributeName, .holding lines.pair⟩ :=
  Station.replace_same _ _ _

/-- Up to the publishing nothing can go wrong. -/
theorem Footing.delivers_attach (hphase : station.phase = .unattached)
    (hfree : lines.free station.world) {post : Except Failure Handle → Station W L P → Prop}
    (h : ∀ world, lines.held world → lines.Shows .release world →
      (lifecycle.announce station.made).Delivers (lines.launched station world)
        fun result later =>
          match result with
          | .ok handle =>
            post (.ok handle) { later with current := some handle, phase := .attached }
          | .error failure => post (.error failure) { later with phase := .unattached }) :
    lifecycle.attach.Delivers station post := by
  refine Lifecycle.delivers_attach hphase ?_
  rw [bringUp_eq]
  have hlaunch : lifecycle.launch.Delivers { station with phase := .attaching } _ :=
    lines.delivers_launch hfree
  refine .bind (hlaunch.mono ?_)
  rintro _ later ⟨rfl, hheld, hshows, hlater⟩
  rw [hlater]
  exact h later.world hheld hshows

/-- The last thing that was done is that both lines were released, one after the other. -/
def Footing.Released (world : W) : Prop :=
  ∃ before,
    let first := lifecycle.hardware.release lines.pair.reset before
    let second := lifecycle.hardware.release lines.pair.bootSelect first.world
    first.outcome = .done () ∧ second.outcome = .done () ∧ world = second.world

/-- The lines were given back, with the coprocessor held in reset. -/
structure Footing.GivenBack (world : W) : Prop where
  free : lines.free world
  released : lines.Released world
  known : lines.known world
  levels : lines.levels world = (.low, .high)

theorem Footing.delivers_givenBack
    (hholding : station.controllers handle = ⟨name, .holding lines.pair⟩)
    (hheld : lines.held station.world) :
    (lifecycle.tearDown handle).Delivers station fun result later =>
      result = .ok () ∧ lines.GivenBack later.world ∧
        later =
          { station with
            world := later.world
            controllers := Station.replace station.controllers handle ⟨name, .vacant⟩ } := by
  have hreleased : (lifecycle.tearDown handle).Yields station fun result later =>
      result = .ok () → lines.Released later.world := by
    refine yields_tearDown hholding (Action.yields_of_forall fun _ forced => ?_)
    refine Action.yields_of_run fun reset hreset => Action.yields_of_run fun bootSelect hboot => ?_
    intro hresult
    cases reset with
    | error failure => cases hresult
    | ok _ =>
      obtain rfl : bootSelect = .ok () := hresult
      exact ⟨forced, hreset, hboot, rfl⟩
  refine ((lines.delivers_tearDown hholding hheld).and_yields hreleased).mono ?_
  rintro _ later ⟨⟨rfl, hfree, ⟨hknown, hlevels⟩, hlater⟩, hreleased⟩
  exact ⟨rfl, ⟨hfree, hreleased rfl, hknown, hlevels⟩, hlater⟩

end Lines

/-! ## On the bus -/

section Bus

open Bus (pathOf)

variable {lifecycle : Lifecycle W L Bus.ObjectTable} (lines : lifecycle.Footing)
  {station : Station W L Bus.ObjectTable} {handle : Handle}

/-- The device is attached, and its controller is served at the path of the attribute and is the
only one of the station that is served. -/
structure Footing.Attached (handle : Handle) (station : Station W L Bus.ObjectTable) : Prop where
  phase : station.phase = .attached
  current : station.current = some handle
  holding : station.controllers handle = .ofPair lifecycle.target.attributeName lines.pair
  held : lines.held station.world
  known : lines.known station.world
  path : Bus.attributePath lifecycle.target.attributeName =
    .ok (pathOf lifecycle.target.attributeName)
  serves : station.publisher.Serves (pathOf lifecycle.target.attributeName) handle

/-- A call to the attribute of an attached device is answered from the levels of its lines. -/
theorem Footing.Attached.delivers_call {lines : lifecycle.Footing}
    (h : lines.Attached handle station) {α : Type} {call : Bus.InterfaceCall α}
    (hcall : call.isReadable = true) :
    (Bus.call lifecycle.hardware (pathOf lifecycle.target.attributeName) call).Delivers station
      fun result later =>
        result = .ok (call.answer (lines.levels station.world)) ∧ lines.Attached handle later ∧
          lines.levels later.world = call.asked.leaves (lines.levels station.world) := by
  refine (Bus.delivers_call lines.dependable.reliable h.serves.served h.holding
    ⟨h.held, h.known⟩ hcall).mono ?_
  rintro _ later ⟨rfl, ⟨hheld, hknown⟩, hlevels, hlater⟩
  rw [hlater]
  exact ⟨rfl, { h with held := hheld, known := hknown }, hlevels⟩

section Publishing

variable (hbus : lifecycle.publisher = Bus.busPublisher)
include hbus

/-- With a path that is free, the attachment comes through, and the controller is served there. -/
theorem Footing.delivers_attach_admitted (hphase : station.phase = .unattached)
    (hfree : lines.free station.world) (hforeign : station.publisher.Foreign)
    (hadmits : station.publisher.Admits lifecycle.target.attributeName) :
    lifecycle.attach.Delivers station fun result later =>
      result = .ok station.made ∧ lines.Attached station.made later ∧
        lines.levels later.world = Command.levels .release ∧
        later.publisher = station.publisher.withServer (pathOf lifecycle.target.attributeName)
          (.station station.made) := by
  refine lines.delivers_attach hphase hfree fun world hheld hshows => ?_
  rw [announce, hbus, Bus.exec_publish]
  refine .bind (.attempt (.on ((Bus.delivers_publish hadmits).mono ?_)))
  rintro _ table ⟨rfl, rfl⟩
  have hholding := lines.holding_launched station world
  refine (Action.delivers_pure _).2 ⟨rfl, ?_, hshows.2, rfl⟩
  exact ⟨rfl, rfl, hholding, hheld, hshows.1, hadmits.1, hforeign.withServer _ _⟩

/-- Otherwise the table stays as it is, and the lines are given back. -/
theorem Footing.delivers_attach_refused (hphase : station.phase = .unattached)
    (hfree : lines.free station.world)
    (hadmits : ¬ station.publisher.Admits lifecycle.target.attributeName) :
    lifecycle.attach.Delivers station fun result later =>
      result = .error (Bus.publishRefusal lifecycle.target.attributeName) ∧
        lines.GivenBack later.world ∧ later.phase = .unattached ∧
        later.publisher = station.publisher := by
  refine lines.delivers_attach hphase hfree fun world hheld hshows => ?_
  rw [announce, hbus, Bus.exec_publish]
  refine .bind (.attempt (.on ((Bus.delivers_publish_refused hadmits).mono ?_)))
  rintro _ table ⟨rfl, rfl⟩
  have hholding := lines.holding_launched station world
  refine .bind (.attempt ((lines.delivers_givenBack hholding hheld).mono ?_))
  rintro _ later ⟨rfl, hgiven, hlater⟩
  refine (Action.delivers_fail _).2 ⟨rfl, hgiven, rfl, ?_⟩
  rw [hlater]
  rfl

/-- A detachment leaves nothing of the station on the bus, and gives the lines back. -/
theorem Footing.Attached.delivers_detach {lines : lifecycle.Footing}
    (h : lines.Attached handle station) :
    lifecycle.detach.Delivers station fun _ later =>
      lines.GivenBack later.world ∧ later.phase = .unattached ∧ later.publisher.Foreign := by
  refine @Lifecycle.delivers_detach _ _ _ lifecycle station handle h.phase _ ?_
  rw [hbus, Bus.exec_unpublish]
  refine .on ((Bus.delivers_unpublish h.path h.serves).mono fun _ table hforeign =>
    ⟨h.current, ?_⟩)
  let withdrawn : Station W L Bus.ObjectTable :=
    { station with publisher := table, phase := .detaching, current := none }
  have hholding : withdrawn.controllers handle = .ofPair _ lines.pair := h.holding
  refine (lines.delivers_givenBack hholding h.held).mono ?_
  rintro _ later ⟨-, hgiven, hlater⟩
  exact ⟨hgiven, rfl, hlater ▸ hforeign⟩

end Publishing

/-! ## Rows of attachments, detachments and requests -/

/-- A station that a lifecycle on the bus has come to. While the device is not attached others may
change the table of objects as they like, but a controller of the station is none of theirs. -/
inductive Footing.OnBus (lines : lifecycle.Footing) : Station W L Bus.ObjectTable → Prop
  | initial (world : W) (table : Bus.ObjectTable) (hfree : lines.free world)
    (hforeign : table.Foreign) : OnBus lines (.initial world table)
  | perform {station : Station W L Bus.ObjectTable} (verb : Verb) (h : OnBus lines station) :
    OnBus lines (lifecycle.perform verb station).world
  | request {station : Station W L Bus.ObjectTable} {α : Type} (attributeName : String)
    (call : Bus.InterfaceCall α) (h : OnBus lines station) :
    OnBus lines (Bus.request lifecycle.hardware attributeName call station).world
  | others {station : Station W L Bus.ObjectTable} (table : Bus.ObjectTable)
    (h : OnBus lines station) (hphase : station.phase ≠ .attached) (hforeign : table.Foreign) :
    OnBus lines { station with publisher := table }

/-- What is on the bus is in step with the lifecycle. -/
inductive Footing.InStep (lines : lifecycle.Footing) (station : Station W L Bus.ObjectTable) : Prop
  | unattached (phase : station.phase = .unattached) (free : lines.free station.world)
    (foreign : station.publisher.Foreign)
  | attached {handle : Handle} (h : lines.Attached handle station)

section Steps

variable {lines : lifecycle.Footing}

theorem Footing.InStep.perform (hbus : lifecycle.publisher = Bus.busPublisher)
    (h : lines.InStep station) (verb : Verb) :
    lines.InStep (lifecycle.perform verb station).world := by
  by_cases hphase : station.phase = verb.phase
  · cases h with
    | unattached hunattached hfree hforeign =>
      cases verb with
      | attach =>
        have hattach : lifecycle.attach.Delivers station fun _ later => lines.InStep later := by
          by_cases hadmits : station.publisher.Admits lifecycle.target.attributeName
          · exact (lines.delivers_attach_admitted hbus hphase hfree hforeign hadmits).mono
              fun _ later hl => .attached hl.2.1
          · refine (lines.delivers_attach_refused hbus hphase hfree hadmits).mono ?_
            rintro _ later ⟨-, hgiven, hlater, hsame⟩
            exact .unattached hlater hgiven.free (hsame ▸ hforeign)
        have hperform : (lifecycle.perform .attach).Delivers station
            fun _ later => lines.InStep later :=
          .bind (hattach.mono fun result later hl => by
            cases result with
            | ok handle => exact (Action.delivers_pure _).2 hl
            | error failure => exact hl)
        exact hperform.choose_spec.2
      | detach => exact absurd (hunattached.symm.trans hphase) (by decide)
    | attached hattached =>
      cases verb with
      | attach => exact absurd (hattached.phase.symm.trans hphase) (by decide)
      | detach =>
        obtain ⟨_, -, hgiven, hlater, hforeign⟩ := hattached.delivers_detach hbus
        exact .unattached hlater hgiven.free hforeign
  · rw [lifecycle.perform_refused hphase]
    exact h

/-- A call to a path that serves no controller of the station makes no difference to the station. -/
theorem Footing.InStep.call (h : lines.InStep station) (path : String) {α : Type}
    (call : Bus.InterfaceCall α) :
    lines.InStep (Bus.call lifecycle.hardware path call station).world := by
  by_cases hserved : ∃ handle, (station.publisher.object path).server = some (.station handle)
  · obtain ⟨handle, hserved⟩ := hserved
    cases h with
    | unattached _ _ hforeign => exact absurd hserved (hforeign path handle)
    | @attached current hattached =>
      obtain rfl := hattached.serves.only path handle hserved
      obtain rfl : current = handle := by
        have hsame := hattached.serves.served.symm.trans hserved
        cases hsame
        rfl
      by_cases hcall : call.isReadable = true
      · obtain ⟨_, -, -, hlater, -⟩ := hattached.delivers_call hcall
        exact .attached hlater
      · rw [Bus.call_unreadable hserved (Bool.eq_false_iff.2 hcall)]
        exact .attached hattached
  · rcases Bus.call_world lifecycle.hardware call fun handle hhandle => hserved ⟨handle, hhandle⟩
      with hsame | ⟨bank, controller, bank', controller', hstranger, hlater⟩
    · rwa [hsame]
    · rw [hlater]
      cases h with
      | unattached hphase hfree hforeign =>
        exact .unattached hphase hfree (hforeign.stranger path bank' controller')
      | attached hattached =>
        have hne : path ≠ pathOf lifecycle.target.attributeName := by
          rintro rfl
          exact hserved ⟨_, hattached.serves.served⟩
        exact .attached
          { hattached with serves := hattached.serves.stranger hne bank' controller' }

theorem Footing.InStep.request (h : lines.InStep station) (attributeName : String) {α : Type}
    (call : Bus.InterfaceCall α) :
    lines.InStep (Bus.request lifecycle.hardware attributeName call station).world := by
  rcases Bus.request_world lifecycle.hardware attributeName call station with hsame | hcall
  · rwa [hsame]
  · rw [hcall]
    exact h.call _ call

/-- Whatever row of acts there was, the bus is in step. -/
theorem Footing.OnBus.inStep (hbus : lifecycle.publisher = Bus.busPublisher)
    (h : lines.OnBus station) : lines.InStep station := by
  induction h with
  | initial world table hfree hforeign => exact .unattached rfl hfree hforeign
  | perform verb h ih => exact ih.perform hbus verb
  | request attributeName call h ih => exact ih.request attributeName call
  | others table h hphase hforeign ih =>
    cases ih with
    | unattached hunattached hfree => exact .unattached hunattached hfree hforeign
    | attached hattached => exact absurd hattached.phase hphase

end Steps

/-- On dependable lines the path of the attribute serves a controller of the lifecycle exactly while
the device is attached. It is then the current controller, which has the lines, and no other path
serves one. An attachment comes through exactly if the table admits the attribute, and otherwise it
leaves the table as it was and gives both lines back at the levels of a coprocessor held in reset.
-/
theorem served_while_attached (hbus : lifecycle.publisher = Bus.busPublisher)
    (h : lines.OnBus station) :
    let attributeName := lifecycle.target.attributeName
    let attach := lifecycle.attach station
    ((∃ handle, (station.publisher.object (pathOf attributeName)).server = some (.station handle)) ↔
        station.phase = .attached) ∧
      (∀ path handle, (station.publisher.object path).server = some (.station handle) →
        path = pathOf attributeName ∧ station.current = some handle ∧
          station.controllers handle = .ofPair attributeName lines.pair) ∧
      (station.phase ≠ .attached → station.publisher.Admits attributeName →
        attach.outcome = .done station.made ∧ attach.world.phase = .attached ∧
          attach.world.publisher =
            station.publisher.withServer (pathOf attributeName) (.station station.made)) ∧
      (station.phase ≠ .attached → ¬ station.publisher.Admits attributeName →
        attach.outcome = .failed (Bus.publishRefusal attributeName) ∧
          attach.world.phase = .unattached ∧ attach.world.publisher = station.publisher ∧
          lines.GivenBack attach.world.world) := by
  intro attributeName attach
  cases h.inStep hbus with
  | unattached hphase hfree hforeign =>
    refine ⟨⟨fun ⟨handle, hserved⟩ => absurd hserved (hforeign _ handle), ?_⟩, ?_, ?_, ?_⟩
    · intro hattached
      exact absurd (hphase.symm.trans hattached) (by decide)
    · exact fun path handle hserved => absurd hserved (hforeign path handle)
    · intro _ hadmits
      obtain ⟨_, hdone, rfl, hattached, -, hlater⟩ :=
        lines.delivers_attach_admitted hbus hphase hfree hforeign hadmits
      exact ⟨hdone, hattached.phase, hlater⟩
    · intro _ hadmits
      obtain ⟨_, hfailed, rfl, hgiven, hlater, hsame⟩ :=
        lines.delivers_attach_refused hbus hphase hfree hadmits
      exact ⟨hfailed, hlater, hsame, hgiven⟩
  | @attached current hattached =>
    refine ⟨⟨fun _ => hattached.phase, fun _ => ⟨current, hattached.serves.served⟩⟩, ?_, ?_, ?_⟩
    · intro path handle hserved
      obtain rfl := hattached.serves.only path handle hserved
      have hsame := hattached.serves.served.symm.trans hserved
      cases hsame
      exact ⟨rfl, hattached.current, hattached.holding⟩
    · exact fun hphase => absurd hattached.phase hphase
    · exact fun hphase => absurd hattached.phase hphase

/-- Between two attachments another device takes the path of the attribute. -/
theorem served_while_attached_taken :
    let lifecycle := inMemory .portenta Bus.busPublisher ⟨none, .activeHigh⟩ ⟨none, .activeHigh⟩
    let path := "/org/arduino/x8h7rstd/x8h7_reset"
    let attached := (lifecycle.perform .attach (.initial .empty [])).world
    let detached := (lifecycle.perform .detach attached).world
    let occupant := Bus.Server.stranger .empty ⟨"x8h7_reset", .vacant⟩
    let table := Bus.ObjectTable.withServer [] path occupant
    let refused := lifecycle.attach { detached with publisher := table }
    (∃ handle, (attached.publisher.object path).server = some (.station handle)) ∧
      refused.outcome = .failed (.internal ("x8h7_reset" ++ " is already published at " ++ path)) ∧
      refused.world.publisher = table ∧
      refused.world.world.levels
        ⟨⟨"reset-line", .activeHigh⟩, ⟨"boot-select-line", .activeHigh⟩⟩ = (.low, .high) := by
  intro lifecycle path attached detached occupant table refused
  let lines : lifecycle.Footing := memoryFooting .portenta Bus.busPublisher (by decide)
  have hempty : Bus.ObjectTable.Foreign [] := fun _ _ h => by cases h
  have hattached : lines.OnBus attached :=
    .perform .attach (.initial MemoryBank.empty [] ⟨rfl, rfl, rfl, rfl⟩ hempty)
  have htaken : lines.OnBus { detached with publisher := table } :=
    .others table (.perform .detach hattached) (by decide +kernel) (hempty.stranger path _ _)
  have hserved := (served_while_attached lines rfl hattached).1.2 (by decide +kernel)
  have hrefused := (served_while_attached lines rfl htaken).2.2.2 (by decide +kernel) fun h => by
    have hvacant : (table.object path).server = none := h.2
    rw [Bus.ObjectTable.server_withServer, if_pos rfl] at hvacant
    cases hvacant
  have hpath : Bus.attributePath "x8h7_reset" = .ok path := if_pos (by decide)
  have hrefusal : Bus.publishRefusal "x8h7_reset" =
      .internal ("x8h7_reset" ++ " is already published at " ++ path) := by
    rw [Bus.publishRefusal, hpath]
  exact ⟨hserved, hrefused.1.trans (congrArg _ hrefusal), hrefused.2.2.1, hrefused.2.2.2.levels⟩

end Bus

end Lifecycle

end CoprocReset
