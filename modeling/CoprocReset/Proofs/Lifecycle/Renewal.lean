import CoprocReset.Proofs.Lifecycle.Attribute
import CoprocReset.Proofs.Lifecycle.Past

/-!
# Lifecycles that begin anew

What is left of the past at a station at rest makes no difference any more. The station is like a
new one (`Renewed.of_clear`), and everything that is asked of the two is answered in the same way and
leaves them alike (`Renewed.demand_alike`). So they go on being alike, by induction on what is asked
(`Renewed.run`), and `unattached_like_new` says what that comes to for those who use them.
-/

namespace CoprocReset

variable {P N S α : Type}

namespace Demand

/-- The demand with a higher number for the controller that it goes to. -/
def raise (count : Nat) : Demand α → Demand α
  | .attach => .attach
  | .detach => .detach
  | .ask handle request => .ask (handle + count) request
  | .askNamed name request => .askNamed name request

/-- The answer with a higher number for the controller that it tells of. -/
def raiseAnswer (count : Nat) : Demand α → α → α
  | .attach, handle => handle + count
  | .detach, answer => answer
  | .ask .., answer => answer
  | .askNamed .., answer => answer

/-- The demands with higher numbers for all controllers. -/
def raiseAll (count : Nat) (demands : List ((α : Type) × Demand α)) : List ((α : Type) × Demand α) :=
  demands.map fun demand => ⟨demand.1, demand.2.raise count⟩

/-- The station after a row of demands. -/
def run (lifecycle : Lifecycle MemoryBank MemoryLine P) (tabled : lifecycle.publisher.Tabled N S)
    (demands : List ((α : Type) × Demand α)) (station : Station MemoryBank MemoryLine P) :
    Station MemoryBank MemoryLine P :=
  demands.foldl (fun station demand => (demand.2.action lifecycle tabled station).world) station

end Demand

namespace Lifecycle

variable {lifecycle : Lifecycle MemoryBank MemoryLine P} {tabled : lifecycle.publisher.Tabled N S}
  {past station new : Station MemoryBank MemoryLine P}

namespace Renewed

theorem ask_alike (hmemory : lifecycle.hardware = memoryHardware)
    (h : lifecycle.Renewed tabled past station new) (handle : Handle) (request : Request α) :
    Action.Alike (Station.request lifecycle.hardware (handle + past.made) request)
      (Station.request lifecycle.hardware handle request) station new
      fun _ => lifecycle.Renewed tabled past := by
  obtain ⟨acquired, h⟩ := h
  exact (h.control_alike hmemory handle fun name => request.script name).mono fun _ _ _ h => ⟨_, h⟩

theorem askNamed_alike (hmemory : lifecycle.hardware = memoryHardware)
    (h : lifecycle.Renewed tabled past station new) (name : String) (request : Request α) :
    Action.Alike (tabled.ask lifecycle.hardware name request)
      (tabled.ask lifecycle.hardware name request) station new
      fun _ => lifecycle.Renewed tabled past := by
  have hlookup : (tabled.tablePart.get station).lookup name =
      ((tabled.tablePart.get new).lookup name).map (· + past.made) := by
    obtain ⟨acquired, h⟩ := h
    rw [h.table, Assoc.lookup_raise]
  refine .look_bind ?_
  rw [hlookup]
  cases (tabled.tablePart.get new).lookup name with
  | some handle => exact h.ask_alike hmemory handle request
  | none => exact Action.alike_fail h

/-- Every demand is met in the same way. -/
theorem demand_alike (hmemory : lifecycle.hardware = memoryHardware)
    (h : lifecycle.Renewed tabled past station new) (demand : Demand α) :
    Action.Alike ((demand.raise past.made).action lifecycle tabled)
      (demand.raiseAnswer past.made <$> demand.action lifecycle tabled) station new
      fun _ => lifecycle.Renewed tabled past := by
  have hkept {β : Type} (action : Action (Station MemoryBank MemoryLine P) β) :
      action = id <$> action := (id_map action).symm
  cases demand with
  | attach => exact h.attach_alike hmemory
  | detach => exact hkept lifecycle.detach ▸ h.detach_alike hmemory
  | ask handle request =>
    exact hkept (Station.request lifecycle.hardware handle request) ▸
      h.ask_alike hmemory handle request
  | askNamed name request =>
    exact hkept (tabled.ask lifecycle.hardware name request) ▸ h.askNamed_alike hmemory name request

/-- By induction on the demands. -/
theorem run (hmemory : lifecycle.hardware = memoryHardware)
    (h : lifecycle.Renewed tabled past station new) (demands : List ((α : Type) × Demand α)) :
    lifecycle.Renewed tabled past
      (Demand.run lifecycle tabled (Demand.raiseAll past.made demands) station)
      (Demand.run lifecycle tabled demands new) := by
  induction demands generalizing station new with
  | nil => exact h
  | cons demand demands ih =>
    obtain ⟨-, hlater⟩ := h.demand_alike hmemory demand.2
    rw [Action.map_apply] at hlater
    exact ih hlater

end Renewed

/-- A station at rest is like a new one, as long as nobody else has one of the lines. -/
theorem Renewed.of_clear {allowed : String → Prop} {fresh : P} (hphase : past.phase = .unattached)
    (h : (tabled.outline past).Clear allowed)
    (hfree : ∀ name, lifecycle.memoryPair.Has name → ¬allowed name)
    (hfresh : tabled.table.get fresh = [])
    (hrest : tabled.rest.get fresh = ([], (tabled.rest.get past.publisher).2)) :
    lifecycle.Renewed tabled past past
      (.initial { MemoryBank.empty with refusals := past.world.refusals } fresh) := by
  have hworld : MemoryBank.LikeNew lifecycle.memoryPair past.world.journal (fun _ => False)
      past.world { MemoryBank.empty with refusals := past.world.refusals } :=
    ⟨rfl, (List.append_nil _).symm, nofun, nofun, fun hhas _ =>
      Bool.eq_false_iff.2 fun hheld => hfree _ hhas (h.held hheld)⟩
  have htable : tabled.tablePart.get past = Assoc.raise past.made (tabled.table.get fresh) :=
    h.table.trans (congrArg (Assoc.raise past.made) hfresh).symm
  have hsame : SameSince (tabled.restPart.get past).1 (tabled.restPart.get past)
      (tabled.rest.get fresh) := by
    rw [hrest]
    exact ⟨(List.append_nil _).symm, rfl⟩
  exact ⟨fun _ => False, hworld, htable, hsame, fun handle => h.unused _ (Nat.le_add_left ..),
    nofun, (Nat.zero_add _).symm, hphase, h.current⟩

/-- A lifecycle on lines in memory that is unattached behaves like a new one on new lines, whatever has
happened before and however the steps of it ended, as long as nobody else has its lines. Everything
that is asked of the two from then on is answered in the same way, apart from the numbers of the
controllers, of which there are more on the one side; and so is it with the phases, with what is
published and recorded, with what is entered in the journal, and with the lines that are acquired from
then on. -/
theorem unattached_like_new (target : Target) {publisher : Publisher P}
    (tabled : publisher.Tabled N S) (reset bootSelect : LineSettings) {kept fresh : P}
    {incidents : List (Incident S)} {scene : Scene P} (hkept : tabled.table.get kept = [])
    (hscene : Scene.run (inMemory target publisher reset bootSelect) tabled incidents
      (.initial kept) = scene)
    (hunattached : scene.station.phase = .unattached)
    (hfree : ∀ line ∈ scene.taken,
      line.name ≠ target.resetLine ∧ line.name ≠ target.bootSelectLine)
    (hfresh : tabled.table.get fresh = [])
    (hrest : tabled.rest.get fresh = ([], (tabled.rest.get scene.station.publisher).2))
    (demands : List ((α : Type) × Demand α)) :
    let lifecycle := inMemory target publisher reset bootSelect
    let past := scene.station
    let start := Station.initial { MemoryBank.empty with refusals := past.world.refusals } fresh
    let old := Demand.run lifecycle tabled (Demand.raiseAll past.made demands) past
    let new := Demand.run lifecycle tabled demands start
    (∀ {α : Type} (demand : Demand α),
        ((demand.raise past.made).action lifecycle tabled old).outcome =
          (demand.action lifecycle tabled new).outcome.map (demand.raiseAnswer past.made)) ∧
      old.phase = new.phase ∧ old.current = new.current.map (· + past.made) ∧
      tabled.table.get old.publisher = Assoc.raise past.made (tabled.table.get new.publisher) ∧
      (tabled.rest.get old.publisher).1 =
        (tabled.rest.get past.publisher).1 ++ (tabled.rest.get new.publisher).1 ∧
      (tabled.rest.get old.publisher).2 = (tabled.rest.get new.publisher).2 ∧
      old.world.journal = past.world.journal ++ new.world.journal ∧
      ∀ name entry, new.world.entryAt name = some entry → old.world.entryAt name = some entry := by
  intro lifecycle past start old new
  have hinitial : lifecycle.Orderly tabled (Scene.initial kept).Taken (Scene.initial kept).station :=
    Scene.orderly_initial hkept
  have horderly := Scene.orderly_run rfl hinitial incidents
  rw [hscene] at horderly
  have hrenewed : lifecycle.Renewed tabled past old new := by
    cases horderly with
    | attached _ hattached => exact absurd (hunattached.symm.trans hattached) nofun
    | broken hbroken => exact absurd hunattached (hbroken .attach)
    | unattached _ h =>
      refine Renewed.run rfl (.of_clear hunattached h ?_ hfresh hrest) demands
      rintro name hhas ⟨line, hline, rfl⟩
      exact hhas.elim (hfree line hline).1 (hfree line hline).2
  obtain ⟨acquired, h⟩ := id hrenewed
  refine ⟨fun demand => ?_, h.phase, h.current, h.table, h.rest.1, h.rest.2, h.world.journal,
    fun name entry => h.world.same⟩
  have houtcome := (hrenewed.demand_alike rfl demand).1
  rw [Action.map_apply] at houtcome
  exact houtcome.symm

/-- Everything that can happen has happened: the device was attached and used, and could not be taken
off the board; then one of its lines was refused, then the board refused it, then someone else had one
of its lines for a while. -/
def eventful : List (Incident Bench.BoardSettings) :=
  [.demand .attach, .demand (.askNamed "x8h7_reset" (.store "0")), .force "boot-select-line" .low,
    .settings fun _ => ⟨false, true⟩, .demand .detach,
    .refuse "boot-select-line" .busy, .demand .attach, .allow "boot-select-line",
    .settings fun _ => ⟨true, true⟩, .demand .attach,
    .acquire ⟨⟨none, .activeLow⟩, "reset-line", .low⟩, .demand .attach,
    .release ⟨"reset-line", .activeLow⟩, .settings fun _ => ⟨false, true⟩]

/-- Two controllers were made by then, and the next attachment starts the coprocessor up as the first
one did. -/
theorem unattached_like_new_eventful :
    let lifecycle := inMemory .portenta Bench.boardPublisher ⟨none, .activeHigh⟩ ⟨none, .activeHigh⟩
    let scene := Scene.run lifecycle Bench.boardTabled eventful (.initial .empty)
    let attached := lifecycle.attach scene.station
    scene.station.phase = .unattached ∧ scene.taken = [] ∧ attached.outcome = .done 2 ∧
      (Station.request lifecycle.hardware 2 .content attached.world).outcome = .done "1\n" ∧
      attached.world.world.journal = scene.station.world.journal ++
        [("reset-line", .low), ("boot-select-line", .high), ("reset-line", .high),
          ("boot-select-line", .low)] := by
  have hfirst : ((inMemory .portenta Bench.boardPublisher ⟨none, .activeHigh⟩
      ⟨none, .activeHigh⟩).attach (.initial .empty ⟨[], [], false, true⟩)).outcome = .done 0 := by
    rfl
  have hcontent : (Station.request memoryHardware 0 .content ((inMemory .portenta
      Bench.boardPublisher ⟨none, .activeHigh⟩ ⟨none, .activeHigh⟩).attach
        (.initial .empty ⟨[], [], false, true⟩)).world).outcome = .done "1\n" := by rfl
  intro lifecycle
  obtain ⟨scene, hscene⟩ :
    ∃ scene, Scene.run lifecycle Bench.boardTabled eventful (.initial .empty) = scene := ⟨_, rfl⟩
  have hphase : scene.station.phase = .unattached := hscene ▸ by decide +kernel
  have htaken : scene.taken = [] := hscene ▸ by decide +kernel
  have hmade : scene.station.made = 2 := hscene ▸ by decide +kernel
  have hrefusals : scene.station.world.refusals = [] := hscene ▸ by decide +kernel
  have hsettings : (Bench.boardTabled.rest.get scene.station.publisher).2 = ⟨false, true⟩ :=
    hscene ▸ by decide +kernel
  have hlike := unattached_like_new .portenta Bench.boardTabled ⟨none, .activeHigh⟩
    ⟨none, .activeHigh⟩ (show Bench.boardTabled.table.get .empty = [] from rfl) hscene hphase
    (htaken ▸ nofun) (show Bench.boardTabled.table.get ⟨[], [], false, true⟩ = [] from rfl)
    (hsettings ▸ rfl)
  simp only [hmade, hrefusals] at hlike
  obtain ⟨hanswers, -⟩ := hlike []
  obtain ⟨hanswers', -, -, -, -, -, hjournal, -⟩ := hlike [⟨_, .attach⟩]
  rw [hscene]
  refine ⟨hphase, htaken, ?_, ?_, hjournal.trans ?_⟩
  · exact (hanswers .attach).trans (congrArg (Outcome.map (· + 2)) hfirst)
  · exact (hanswers' (.ask 0 .content)).trans (congrArg (Outcome.map id) hcontent)
  · exact congrArg (scene.station.world.journal ++ ·) (by decide +kernel)

end Lifecycle

end CoprocReset
