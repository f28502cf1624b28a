import CoprocReset.Proofs.Controller.FailStop
import CoprocReset.Proofs.Lifecycle.DryRun
import CoprocReset.Proofs.Lifecycle.History
import CoprocReset.Proofs.Lifecycle.Launch

/-!
# Lifecycles that stop for good

The phase of a station is changed by its lifecycle at four places and by nothing else: not by a call on
a line, not by a publisher and not by a crash (`steady_bringUp`, `steady_dismiss`). So a call to a
lifecycle that crashes leaves it attaching or detaching (`perform_crashed`), and there it stays.
`fail_stop` says that and the like of controllers.
-/

namespace CoprocReset

/-- What the calls of a startup leave alone, the startup leaves alone. -/
theorem LinePair.steady_startUp {W L γ : Type} {hw : Hardware W L} {pair : LinePair L} {f : W → γ}
    (hwait : ∀ ms, (hw.wait ms).Steady f)
    (hdrive : ∀ command, (hw.exec (pair.drive command)).Steady f) (window : SettleWindow) :
    (pair.startUp hw window).Steady f := by
  refine (Action.steady_note _ _).bind fun _ => (Action.steady_note _ _).bind fun _ => ?_
  refine (hdrive .hold).bind fun _ => (Action.steady_note _ _).bind fun _ => ?_
  refine ((hwait _).bind fun _ => Action.steady_pure _).bind fun _ => ?_
  refine (Action.steady_note _ _).bind fun _ => (hdrive .release).bind fun _ => ?_
  exact Action.steady_note _ _

namespace Lifecycle

variable {W L P α : Type} {lifecycle : Lifecycle W L P} {station later : Station W L P}
  {message : String}

/-! ## The phase -/

theorem steady_control (hw : Hardware W L) (handle : Handle)
    (script : String → ControllerScript L α) :
    (Station.control hw handle script : Action (Station W L P) α).Steady Station.phase :=
  fun _ => rfl

theorem steady_publisher (hw : Hardware W L) (script : PublisherScript P α) :
    (Publisher.exec hw script : Action (Station W L P) α).Steady Station.phase := by
  refine Script.steady_exec _ (fun call => ?_) script
  cases call with
  | own action => exact Action.steady_on (fun _ _ => rfl) action
  | request handle request => exact steady_control hw handle _

theorem steady_lines_exec (lifecycle : Lifecycle W L P) (script : LineScript L α) :
    (lifecycle.lines.exec script).Steady Station.phase := by
  rw [lines, Hardware.exec_within]
  exact Action.steady_on (fun _ _ => rfl) _

theorem steady_release (lifecycle : Lifecycle W L P) (pair : LinePair L) :
    (pair.release lifecycle.lines).Steady Station.phase := by
  have hrelease (line : L) : (lifecycle.lines.release line).Steady Station.phase :=
    Action.steady_on (fun _ _ => rfl) _
  refine (hrelease _).attempt.bind fun reset => (hrelease _).attempt.bind fun bootSelect => ?_
  cases bootSelect with
  | ok _ => exact Action.steady_ofExcept _
  | error failure => exact (Action.steady_note _ _).bind fun _ => Action.steady_ofExcept _

theorem steady_acquireLines (lifecycle : Lifecycle W L P) :
    lifecycle.acquireLines.Steady Station.phase := by
  have hacquire (request : LineRequest) : (lifecycle.lines.acquire request).Steady Station.phase :=
    Action.steady_on (fun _ _ => rfl) _
  have hrelease (line : L) : (lifecycle.lines.release line).Steady Station.phase :=
    Action.steady_on (fun _ _ => rfl) _
  refine (hacquire _).bind fun reset => (hacquire _).attempt.bind fun bootSelect => ?_
  cases bootSelect with
  | ok bootSelect => exact Action.steady_pure _
  | error failure =>
    refine (hrelease reset).attempt.bind fun released => ?_
    cases released with
    | ok _ => exact Action.steady_fail _
    | error refusal => exact (Action.steady_note _ _).bind fun _ => Action.steady_fail _

theorem steady_startUp (lifecycle : Lifecycle W L P) (pair : LinePair L) :
    (lifecycle.startUp pair).Steady Station.phase :=
  have hpair : (pair.startUp lifecycle.lines lifecycle.target.settle).Steady Station.phase :=
    LinePair.steady_startUp (fun _ => Action.steady_on (fun _ _ => rfl) _)
      (fun _ => lifecycle.steady_lines_exec _) _
  hpair.attempt.contain

theorem steady_tearDown (lifecycle : Lifecycle W L P) (handle : Handle) :
    (lifecycle.tearDown handle).Steady Station.phase :=
  (steady_control _ _ _).bind fun pair => lifecycle.steady_release pair

theorem steady_launch (lifecycle : Lifecycle W L P) : lifecycle.launch.Steady Station.phase := by
  refine lifecycle.steady_acquireLines.bind fun pair => ?_
  refine (lifecycle.steady_startUp pair).bind fun started => ?_
  cases started with
  | ok _ => exact fun _ => rfl
  | error failure =>
    refine (lifecycle.steady_release pair).attempt.bind fun released => ?_
    cases released with
    | ok _ => exact Action.steady_fail _
    | error refusal =>
      exact (Action.steady_note _ _).bind fun _ => Action.steady_fail _

theorem steady_announce (lifecycle : Lifecycle W L P) (handle : Handle) :
    (lifecycle.announce handle).Steady Station.phase := by
  refine (steady_publisher _ _).attempt.bind fun published => ?_
  cases published with
  | ok _ => exact Action.steady_pure _
  | error failure =>
    refine (lifecycle.steady_tearDown handle).attempt.bind fun released => ?_
    cases released with
    | ok _ => exact Action.steady_fail _
    | error refusal => exact (Action.steady_note _ _).bind fun _ => Action.steady_fail _

/-- Bringing a device up is no change of phase, however it ends. -/
theorem steady_bringUp (lifecycle : Lifecycle W L P) : lifecycle.bringUp.Steady Station.phase := by
  rw [bringUp_eq]
  exact lifecycle.steady_launch.bind lifecycle.steady_announce

/-- Neither is the dismissal of its controller. -/
theorem steady_dismiss (lifecycle : Lifecycle W L P) : lifecycle.dismiss.Steady Station.phase := by
  have hsetCurrent : (setCurrent none : Action (Station W L P) Unit).Steady Station.phase :=
    fun _ => rfl
  refine Action.steady_world.bind fun station => ?_
  cases station.current with
  | some handle => exact hsetCurrent.bind fun _ => lifecycle.steady_tearDown handle
  | none => exact Action.steady_fail _

/-! ## Calls that crash -/

/-- The phase in which a lifecycle carries out what it was told. -/
def Verb.during : Verb → Phase
  | .attach => .attaching
  | .detach => .detaching

theorem attach_crashLeaves (lifecycle : Lifecycle W L P) (station : Station W L P) :
    lifecycle.attach.CrashLeaves station (·.phase = .attaching) := by
  rw [attach]
  refine .world_bind ?_
  by_cases hphase : station.phase = .unattached
  · simp only [hphase, ne_eq, not_true_eq_false, if_false]
    refine .note_bind (.update_bind (.bind (.attempt fun _ _ => ?_) fun result => ?_))
    · exact lifecycle.steady_bringUp { station with phase := .attaching }
    · refine Action.Calm.crashLeaves ?_
      cases result with
      | ok handle =>
        refine (Action.calm_update _).bind fun _ => (Action.calm_update _).bind fun _ => ?_
        exact (Action.calm_note _ _).bind fun _ => Action.calm_pure _
      | error failure =>
        refine (Action.calm_note _ _).bind fun _ => (Action.calm_update _).bind fun _ => ?_
        exact Action.calm_fail _
  · simp only [ne_eq, hphase, not_false_eq_true, if_true]
    exact (Action.calm_fail _).crashLeaves

theorem detach_crashLeaves (lifecycle : Lifecycle W L P) (station : Station W L P) :
    lifecycle.detach.CrashLeaves station (·.phase = .detaching) := by
  rw [detach]
  refine .world_bind ?_
  by_cases hphase : station.phase = .attached
  · simp only [hphase, ne_eq, not_true_eq_false, if_false]
    have hwithdrawn := (steady_publisher lifecycle.hardware (lifecycle.publisher.unpublish
      lifecycle.target.attributeName)) { station with phase := .detaching }
    refine .note_bind (.update_bind (.bind (.attempt fun _ _ => hwithdrawn) fun unpublished => ?_))
    have hdismiss : lifecycle.dismiss.attempt.CrashLeaves _ (·.phase = .detaching) :=
      .attempt fun _ _ => (lifecycle.steady_dismiss _).trans hwithdrawn
    have hrest (released : Except Failure Unit) : Action.Calm (do
        setPhase .unattached
        Action.noteInfo (lifecycle.target.attributeName ++ " detached")
        Action.ofExcept (released >>= fun () => unpublished) :
          Action (Station W L P) Unit) := by
      refine (Action.calm_update _).bind fun _ => (Action.calm_note _ _).bind fun _ => ?_
      exact Action.calm_ofExcept _
    cases unpublished with
    | ok _ => exact hdismiss.bind fun released => (hrest released).crashLeaves
    | error failure =>
      exact .note_bind (hdismiss.bind fun released => (hrest released).crashLeaves)
  · simp only [ne_eq, hphase, not_false_eq_true, if_true]
    exact (Action.calm_fail _).crashLeaves

/-- A call that crashes leaves the phase in which it was carried out. -/
theorem perform_crashed {verb : Verb} (h : (lifecycle.perform verb station).outcome = .crashed message) :
    (lifecycle.perform verb station).world.phase = verb.during := by
  cases verb with
  | detach => exact lifecycle.detach_crashLeaves station message h
  | attach =>
    have hleaves : (lifecycle.perform .attach).CrashLeaves station (·.phase = .attaching) :=
      (lifecycle.attach_crashLeaves station).bind fun _ => (Action.calm_pure ()).crashLeaves
    exact hleaves message h

/-! ## What comes after -/

/-- What a station can come to, whatever happens there and however that ends: a lifecycle is told
something, a controller is asked something, or others change the world and what the publisher keeps. -/
inductive After (lifecycle : Lifecycle W L P) (start : Station W L P) : Station W L P → Prop
  | refl : After lifecycle start start
  | perform (verb : Verb) {later : Station W L P} (h : After lifecycle start later) :
    After lifecycle start (lifecycle.perform verb later).world
  | request {α : Type} (handle : Handle) (request : Request α) {later : Station W L P}
    (h : After lifecycle start later) :
    After lifecycle start (Station.request lifecycle.hardware handle request later).world
  | elsewhere (world : W) (publisher : P) {later : Station W L P}
    (h : After lifecycle start later) : After lifecycle start { later with world, publisher }

/-- A lifecycle that is neither at rest in the one phase nor in the other stays in its phase. -/
theorem After.phase {start : Station W L P} (h : lifecycle.After start later)
    (hstuck : ∀ verb : Verb, start.phase ≠ verb.phase) : later.phase = start.phase := by
  induction h with
  | refl => rfl
  | @perform verb later _ ih =>
    have hrefused : later.phase ≠ verb.phase := ih ▸ hstuck verb
    rw [lifecycle.perform_refused hrefused]
    exact ih
  | request handle request _ ih => exact ih
  | elsewhere world publisher _ ih => exact ih

/-- Once the lines were taken away from a controller, or a call on them crashed under its lock, no line
is touched again and every later operation fails, because of the one or the other. Once a call to the
lifecycle has crashed, the lifecycle stays in the phase of that call, and every later call is refused
without a look at any hardware or publisher. -/
theorem fail_stop (lifecycle : Lifecycle W L P) :
    (∀ (name : String) (pair : LinePair L) (world : W) (schedule : List (Shared.Move L)),
      let result := (Shared.opened name pair world).run lifecycle.hardware schedule
      (∀ before event after, result.2 = before ++ event :: after →
          Shared.Lawful name before event) ∧
        ∀ event ∈ result.2, ∀ failure, event.ends? name = some failure →
          ∀ {α : Type} (operation : Operation L α),
            Controller.exec lifecycle.hardware (operation.script name)
                (result.1.world, result.1.controller) =
              ⟨.failed failure, (result.1.world, result.1.controller), []⟩) ∧
      ∀ (verb : Verb) (station : Station W L P) (message : String),
        (lifecycle.perform verb station).outcome = .crashed message →
        ∀ later, lifecycle.After (lifecycle.perform verb station).world later →
          later.phase = verb.during ∧
            ∀ (next : Verb) (hardware : Hardware W L) (publisher : Publisher P),
              ({ lifecycle with hardware, publisher } : Lifecycle W L P).perform next later =
                ⟨.failed (lifecycle.outOfPhase next.name verb.during), later, []⟩ := by
  refine ⟨fun name pair world schedule => Shared.lawful_run _ name pair world schedule, ?_⟩
  intro verb station message hcrashed later hafter
  have hduring : (lifecycle.perform verb station).world.phase = verb.during :=
    perform_crashed hcrashed
  have hstuck (next : Verb) : verb.during ≠ next.phase := by
    cases verb <;> cases next <;> nofun
  have hphase : later.phase = verb.during :=
    (hafter.phase fun next => hduring ▸ hstuck next).trans hduring
  refine ⟨hphase, fun next hardware publisher => ?_⟩
  have hrefused : later.phase ≠ next.phase := hphase ▸ hstuck next
  rw [perform_refused _ hrefused, hphase]
  rfl

/-- The first look at the reset line crashes. A controller is poisoned by it, and an attachment whose
publisher looks at the lines never comes to an end. -/
theorem fail_stop_dryRun :
    let faulty := dryRun [⟨"reset-line", .get, 1, true⟩]
    let opened := Shared.opened "x8h7_reset"
      (⟨⟨"reset-line", .activeHigh⟩, ⟨"boot-select-line", .activeHigh⟩⟩ : LinePair MemoryLine)
      dryStation.world
    let result := opened.run faulty.hardware [.begin 0 (.request .read), .advance 0, .advance 0]
    let attached := faulty.perform .attach dryStation
    (Controller.exec faulty.hardware Controller.content
        (result.1.world, result.1.controller)).outcome =
        .failed (.internal ("x8h7_reset" ++ " line lock is poisoned")) ∧
      (∃ message, attached.outcome = .crashed message) ∧ attached.world.phase = .attaching ∧
      (faulty.perform .detach attached.world).outcome =
        .failed (faulty.outOfPhase "detach" .attaching) := by
  have hmem : .crashed 0 ∈ ((Shared.opened "x8h7_reset"
      (⟨⟨"reset-line", .activeHigh⟩, ⟨"boot-select-line", .activeHigh⟩⟩ : LinePair MemoryLine)
      dryStation.world).run (dryRun [⟨"reset-line", .get, 1, true⟩]).hardware
        [.begin 0 (.request .read), .advance 0, .advance 0]).2 := List.mem_of_getLast? rfl
  have hcrashed : ((dryRun [⟨"reset-line", .get, 1, true⟩]).perform .attach dryStation).outcome =
      .crashed "injected get panic on reset-line" := by rfl
  obtain ⟨hcontroller, hlifecycle⟩ := fail_stop (dryRun [⟨"reset-line", .get, 1, true⟩])
  obtain ⟨-, hrefused⟩ := hcontroller "x8h7_reset" _ _ _
  obtain ⟨hphase, hnext⟩ := hlifecycle .attach dryStation _ hcrashed _ .refl
  have hpoisoned := hrefused (.crashed 0) hmem _ rfl (.request .content)
  exact ⟨congrArg Run.outcome hpoisoned, ⟨_, hcrashed⟩, hphase,
    congrArg Run.outcome (hnext .detach _ _)⟩

end Lifecycle

end CoprocReset
