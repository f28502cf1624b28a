import CoprocReset.Proofs.Lifecycle.Course
import CoprocReset.Proofs.Lifecycle.DryRun

/-!
# The ledger of lines

`Hardware.tallied` is a provider of lines that keeps a tally: each line it hands out has a number of
its own, and it counts how often each is given back. `Balanced` says of a station that every line
handed out was given back once, except those of the controller in the books. A lifecycle on tallied
hardware is balanced between any two calls, whatever failed before (`lines_released_once`).

The tally is compared with the history (`Agrees`), in which the lines handed out are the lines given
back and the lines in hand (`Steps.acquired_eq`).
-/

namespace CoprocReset

/-- What a provider knows of its lines: how many it has handed out, and how often each was given
back. -/
structure Tally where
  handedOut : Nat
  releases : Nat → Nat

namespace Tally

/-- The tally before a line was handed out. -/
def blank : Tally := ⟨0, fun _ => 0⟩

/-- One more line is handed out. -/
def handOut (tally : Tally) : Tally := { tally with handedOut := tally.handedOut + 1 }

/-- A line is given back. -/
def giveBack (tally : Tally) (serial : Nat) : Tally :=
  { tally with
    releases := fun other => tally.releases other + if other = serial then 1 else 0 }

end Tally

/-- The hardware with a tally. Lines carry the number under which they were handed out. -/
def Hardware.tallied {W L : Type} (hw : Hardware W L) : Hardware (W × Tally) (Nat × L) where
  acquire request := do
    let line ← (hw.acquire request).on Lens.first
    let (_, tally) ← Action.world
    Action.update fun (world, tally) => (world, tally.handOut)
    return (tally.handedOut, line)
  get line := (hw.get line.2).on Lens.first
  set line level := (hw.set line.2 level).on Lens.first
  release line := do
    Action.update fun (world, tally) => (world, tally.giveBack line.1)
    (hw.release line.2).on Lens.first
  wait ms := (hw.wait ms).on Lens.first
  name line := hw.name line.2
  polarity line := hw.polarity line.2

theorem Hardware.Calm.tallied {W L : Type} {hw : Hardware W L} (h : hw.Calm) : hw.tallied.Calm where
  acquire request := (h.acquire request).on.bind fun _ => Action.calm_world.bind fun _ =>
    (Action.calm_update _).bind fun _ => Action.calm_pure _
  get line := (h.get line.2).on
  set line level := (h.set line.2 level).on
  release line := (Action.calm_update _).bind fun _ => (h.release line.2).on
  wait ms := (h.wait ms).on

/-- Looking at lines and driving them does not count. -/
theorem Hardware.keeps_tally {W L : Type} (hw : Hardware W L) (tally : Tally) :
    hw.tallied.Keeps fun world => world.2 = tally where
  get _ _ h := Action.yields_on.2 (Action.yields_of_forall fun _ _ => h)
  set _ _ _ h := Action.yields_on.2 (Action.yields_of_forall fun _ _ => h)

namespace Lifecycle

variable {W L P : Type}

/-- The lifecycle with a tally of its lines. -/
def tallied (lifecycle : Lifecycle W L P) : Lifecycle (W × Tally) (Nat × L) P where
  hardware := lifecycle.hardware.tallied
  publisher := lifecycle.publisher
  target := lifecycle.target
  resetSettings := lifecycle.resetSettings
  bootSelectSettings := lifecycle.bootSelectSettings

/-- The tally is blank in the beginning, and nobody but the provider changes it. -/
def Surroundings.tallied : Surroundings (W × Tally) where
  begins world := world.2 = .blank
  changes world later := later.2 = world.2

/-- The tally agrees with the history. -/
structure Agrees (tally : Tally) (history : List (Event (Nat × L))) : Prop where
  handedOut : (acquired history).map Prod.fst = List.range tally.handedOut
  releases (serial : Nat) :
    tally.releases serial = ((released history).map Prod.fst).count serial

namespace Agrees

variable {tally : Tally} {history : List (Event (Nat × L))}

theorem blank : Agrees .blank ([] : List (Event (Nat × L))) := ⟨rfl, fun _ => rfl⟩

/-- What hands out no line and gives none back makes no difference. -/
theorem snoc {event : Event (Nat × L)} (h : Agrees tally history)
    (hacquired : event.acquired? = none) (hreleased : event.released? = none) :
    Agrees tally (history ++ [event]) where
  handedOut := by simpa [acquired_snoc, hacquired] using h.handedOut
  releases serial := by simpa [released_snoc, hreleased] using h.releases serial

theorem handOut (h : Agrees tally history) (request : LineRequest) (line : L) :
    Agrees tally.handOut (history ++ [.acquire request (.ok (tally.handedOut, line))]) where
  handedOut := by
    rw [acquired_snoc, List.map_append, h.handedOut]
    exact List.range_succ.symm
  releases serial := by
    rw [released_snoc]
    simpa [Event.released?, Tally.handOut] using h.releases serial

theorem giveBack (h : Agrees tally history) (line : Nat × L) (answer : Except Failure Unit) :
    Agrees (tally.giveBack line.1) (history ++ [.release line answer]) where
  handedOut := by
    rw [acquired_snoc]
    simpa [Event.acquired?, Tally.giveBack] using h.handedOut
  releases serial := by
    rw [released_snoc, List.map_append, List.count_append, ← h.releases serial]
    by_cases hserial : serial = line.1
    · simp [Event.released?, Tally.giveBack, hserial]
    · simp [Event.released?, Tally.giveBack, hserial, eq_comm]

end Agrees

variable {lifecycle : Lifecycle W L P} {station : Station (W × Tally) (Nat × L) P}
  {history : List (Event (Nat × L))}

/-- After every call the tally agrees with the history that has the call. -/
theorem carryOut_agrees {α : Type} (request : LifecycleCall (Nat × L) α)
    (h : Agrees station.world.2 history) :
    (lifecycle.tallied.carryOut request).Yields station fun answer later =>
      Agrees later.world.2 (history ++ entry request answer) := by
  have hpublisher (script : PublisherScript P Unit) {event : Except Failure Unit → Event (Nat × L)}
      (hacquired : ∀ answer, (event answer).acquired? = none)
      (hreleased : ∀ answer, (event answer).released? = none) :
      (Publisher.exec lifecycle.tallied.hardware script).Yields station fun answer later =>
        Agrees later.world.2 (history ++ [event answer]) :=
    (Station.publisher_keeps (lifecycle.hardware.keeps_tally station.world.2) script rfl).mono
      fun answer later hl => hl.1 ▸ h.snoc (hacquired answer) (hreleased answer)
  cases request with
  | acquire request =>
    refine Action.yields_on.2 ((Action.yields_bind _ _).2 (Action.yields_on.2 ?_))
    refine Action.yields_of_forall fun result world => ?_
    cases result with
    | ok line => exact h.handOut request line
    | error failure => exact h.snoc rfl rfl
  | release line =>
    refine Action.yields_on.2 (.update_bind ?_)
    exact Action.yields_on.2 (Action.yields_of_forall fun answer world => h.giveBack line answer)
  | set | wait =>
    refine Action.yields_on.2 (Action.yields_on.2 (Action.yields_of_forall fun answer world => ?_))
    exact h.snoc rfl rfl
  | publish handle => exact hpublisher _ (fun _ => rfl) fun _ => rfl
  | unpublish => exact hpublisher _ (fun _ => rfl) fun _ => rfl
  | keep action =>
    refine Action.yields_on.2 (Action.yields_of_forall fun answer books => ?_)
    rw [entry, List.append_nil]
    exact h

theorem record_agrees (verb : Verb) (h : Agrees station.world.2 history) :
    (lifecycle.tallied.record verb).Yields (station, history) fun _ later =>
      Agrees later.1.world.2 later.2 := by
  have hcalled : Agrees station.world.2 (history ++ [.called verb]) := h.snoc rfl rfl
  refine yields_record.2 ((Script.exec_keeps _ (I := fun later => Agrees later.1.world.2 later.2)
    (fun request later hI => ?_) _ hcalled).mono fun _ _ hl => hl.snoc rfl rfl)
  exact (Script.yields_recording ..).2 (carryOut_agrees request hI)

/-- Along every course the tally agrees with the history. -/
theorem Course.agrees (hcalm : lifecycle.hardware.Calm)
    (h : lifecycle.tallied.Course .tallied station history) : Agrees station.world.2 history := by
  have htallied : lifecycle.tallied.hardware.Calm := hcalm.tallied
  induction h with
  | initial world publisher hworld => exact hworld ▸ .blank
  | perform verb h hdone ih =>
    exact (record_agrees verb ih).after (record_outcome htallied .. ▸ hdone)
  | @request α handle request station history h ih =>
    have htally : (Station.request lifecycle.tallied.hardware handle request
        station).world.world.2 = station.world.2 :=
      (Station.request_leaves htallied (lifecycle.hardware.keeps_tally _) handle request rfl).1
    exact htally ▸ ih
  | elsewhere world publisher h hworld ih => exact hworld ▸ ih

/-! ## Balance -/

/-- At rest, every line handed out was given back once. The two lines of the controller in the books
are out, and were never given back. -/
def Balanced (station : Station (W × Tally) (Nat × L) P) : Prop :=
  let tally := station.world.2
  station.phase = .unattached ∧ station.current = none ∧
      (∀ serial < tally.handedOut, tally.releases serial = 1) ∨
    station.phase = .attached ∧ ∃ handle name reset bootSelect,
      station.current = some handle ∧
      station.controllers handle = ⟨name, .holding ⟨reset, bootSelect⟩⟩ ∧
      reset.1 < tally.handedOut ∧ bootSelect.1 < tally.handedOut ∧ reset.1 ≠ bootSelect.1 ∧
      ∀ serial < tally.handedOut,
        tally.releases serial = if serial = reset.1 ∨ serial = bootSelect.1 then 0 else 1

/-- Each number was given to one line, so it stands either for a line given back or for one in
hand. -/
theorem Agrees.count_eq {tally : Tally} {rest : Stage (Nat × L)} (h : Agrees tally history)
    (hsteps : lifecycle.tallied.Steps .idle history rest) (serial : Nat) :
    tally.releases serial + (rest.lines.map Prod.fst).count serial =
      if serial < tally.handedOut then 1 else 0 := by
  calc tally.releases serial + (rest.lines.map Prod.fst).count serial
      = ((acquired history).map Prod.fst).count serial := by
        rw [h.releases, hsteps.acquired_eq, List.map_append, List.count_append]
    _ = if serial < tally.handedOut then 1 else 0 := by rw [h.handedOut, List.count_range]

theorem Agrees.balanced (h : Agrees station.world.2 history)
    (hsettled : lifecycle.tallied.Settled station history) : Balanced station := by
  obtain ⟨rest, hsteps, hrest⟩ := hsettled
  have hcount := h.count_eq hsteps
  cases hrest with
  | unattached hphase hcurrent =>
    refine .inl ⟨hphase, hcurrent, fun serial hserial => ?_⟩
    simpa [Stage.lines, hserial] using hcount serial
  | @attached handle name pair hphase hcurrent hholding =>
    obtain ⟨reset, bootSelect⟩ := pair
    simp only [Stage.lines, List.map_cons, List.map_nil, List.count_cons, List.count_nil,
      beq_iff_eq] at hcount
    have hreset := hcount reset.1
    have hbootSelect := hcount bootSelect.1
    refine .inr ⟨hphase, handle, name, reset, bootSelect, hcurrent, hholding, ?_, ?_, ?_, ?_⟩
    · grind
    · grind
    · grind
    · intro serial hserial
      have := hcount serial
      grind

/-- On hardware that does not crash, a lifecycle is balanced between any two calls, whatever any
call was answered. Told something in the wrong phase, it calls nothing and changes nothing. -/
theorem lines_released_once (lifecycle : Lifecycle W L P) (hcalm : lifecycle.hardware.Calm) :
    (∀ station, lifecycle.tallied.Reachable .tallied station → Balanced station) ∧
      ∀ (verb : Verb) (station : Station W L P) (history : List (Event L)),
        station.phase ≠ verb.phase →
        let refusal := lifecycle.outOfPhase verb.name station.phase
        lifecycle.perform verb station = ⟨.failed refusal, station, []⟩ ∧
          lifecycle.record verb (station, history) =
            ⟨.failed refusal,
              (station, history ++ [.called verb, .returned verb (.failed refusal)]), []⟩ := by
  have htallied : lifecycle.tallied.hardware.Calm := hcalm.tallied
  refine ⟨fun station hreachable => ?_, fun verb station history hphase => ?_⟩
  · obtain ⟨history, hcourse⟩ := hreachable.course htallied
    exact (hcourse.agrees hcalm).balanced (hcourse.settled htallied)
  · exact ⟨lifecycle.perform_refused hphase, lifecycle.record_refused history hphase⟩

theorem lines_released_once_dryRun :
    let attached := ((dryRun []).tallied.perform .attach
      (.initial (dryStation.world, .blank) dryStation.publisher)).world
    let detached := ((dryRun []).tallied.perform .detach attached).world
    Balanced attached ∧ Balanced detached ∧ detached.world.2.handedOut = 2 ∧
      (dryRun []).perform .detach dryStation =
        ⟨.failed (.lifecycle "Cannot detach x8h7_reset while Unattached"), dryStation, []⟩ := by
  have hattached : (dryRun []).tallied.Reachable .tallied _ :=
    .perform .attach (.initial (dryStation.world, Tally.blank) dryStation.publisher rfl)
      fun _ => nofun
  have hdetached := hattached.perform .detach fun _ => nofun
  obtain ⟨hbalanced, hrefused⟩ := lines_released_once (dryRun []) (dryRun_calm (by simp))
  exact ⟨hbalanced _ hattached, hbalanced _ hdetached, rfl, (hrefused .detach _ [] (by decide)).1⟩

end Lifecycle

end CoprocReset
