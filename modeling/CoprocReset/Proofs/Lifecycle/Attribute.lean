import CoprocReset.Proofs.Command
import CoprocReset.Proofs.Lifecycle.Launch
import CoprocReset.Proofs.Line.Memory

/-!
# The attribute of a device in memory

While a device in memory is attached, its attribute can be read and written, someone may try to attach
it once more, and others may force its lines. `Use.leaves` and `Use.answer` say what that does to a
pair of levels, and what everyone is told, without a table, a controller or a lifecycle. The invariant
`InUse` ties the pair to the station; every use keeps it (`InUse.step`), and so does every row of uses
(`InUse.run`). `attribute_follows_levels` puts the two together, from the end of the attachment on.
-/

namespace CoprocReset

/-- How a device in memory is attached. -/
def inMemory {P : Type} (target : Target) (publisher : Publisher P)
    (reset bootSelect : LineSettings) : Lifecycle MemoryBank MemoryLine P where
  hardware := memoryHardware
  publisher := publisher
  target := target
  resetSettings := reset
  bootSelectSettings := bootSelect

/-- What can happen to an attached device until it is detached, by the type of the answer. -/
inductive Use : Type → Type 1 where
  | ask {α : Type} (request : Request α) : Use α
  | attach : Use Handle
  | forceReset (level : Level) : Use Unit
  | forceBootSelect (level : Level) : Use Unit

namespace Use

variable {α P : Type}

/-- What is done with the controller, the lifecycle or the table. -/
def action (lifecycle : Lifecycle MemoryBank MemoryLine P) (handle : Handle) :
    Use α → Action (Station MemoryBank MemoryLine P) α
  | .ask request => Station.request lifecycle.hardware handle request
  | .attach => lifecycle.attach
  | .forceReset level =>
    (Action.update (·.force lifecycle.target.resetLine level)).on Station.worldPart
  | .forceBootSelect level =>
    (Action.update (·.force lifecycle.target.bootSelectLine level)).on Station.worldPart

/-- The levels of the pair after the use. -/
def leaves : Use α → Level × Level → Level × Level
  | .ask request, levels => request.leaves levels
  | .attach, levels => levels
  | .forceReset level, levels => (level, levels.2)
  | .forceBootSelect level, levels => (levels.1, level)

/-- What the use is answered while the pair is at the levels. -/
def answer (lifecycle : Lifecycle MemoryBank MemoryLine P) : Use α → Level × Level → Except Failure α
  | .ask request, levels => request.answer levels
  | .attach, _ => .error (lifecycle.outOfPhase "attach" .attached)
  | .forceReset _, _ | .forceBootSelect _, _ => .ok ()

/-- The use changes no level. -/
def Quiet : Use α → Prop
  | .ask request => request.command? = none
  | .attach => True
  | .forceReset _ | .forceBootSelect _ => False

/-- The station after a row of uses. -/
def run (lifecycle : Lifecycle MemoryBank MemoryLine P) (handle : Handle)
    (uses : List ((α : Type) × Use α)) (station : Station MemoryBank MemoryLine P) :
    Station MemoryBank MemoryLine P :=
  uses.foldl (fun station use => (use.2.action lifecycle handle station).world) station

/-- The levels after a row of uses. -/
def levelsAfter (uses : List ((α : Type) × Use α)) (levels : Level × Level) : Level × Level :=
  uses.foldl (fun levels use => use.2.leaves levels) levels

theorem leaves_of_quiet {use : Use α} (h : use.Quiet) (levels : Level × Level) :
    use.leaves levels = levels := by
  cases use with
  | ask request => rw [leaves, Request.leaves, show request.command? = none from h]; rfl
  | attach => rfl
  | forceReset => exact h.elim
  | forceBootSelect => exact h.elim

/-- A row of quiet uses leaves the levels alone. -/
theorem levelsAfter_of_quiet {uses : List ((α : Type) × Use α)} (h : ∀ use ∈ uses, use.2.Quiet)
    (levels : Level × Level) : levelsAfter uses levels = levels := by
  induction uses with
  | nil => rfl
  | cons use uses ih =>
    rw [levelsAfter, List.foldl_cons, leaves_of_quiet (h use List.mem_cons_self)]
    exact ih fun other hother => h other (List.mem_cons_of_mem use hother)

end Use

namespace MemoryBank

variable {bank : MemoryBank} {name : String}

/-- A known line that is forced is at the level, and no other line is touched. -/
theorem entryAt_force (h : (bank.entryAt name).isSome) (level : Level) (other : String) :
    ((bank.force name level).entryAt other).map MemoryEntry.level =
      if other = name then some level else (bank.entryAt other).map MemoryEntry.level := by
  obtain ⟨entry, hentry⟩ := Option.isSome_iff_exists.1 h
  rw [force, hentry]
  dsimp only
  rw [entryAt_put]
  split <;> rfl

end MemoryBank

namespace Lifecycle

variable {P α : Type} {lifecycle : Lifecycle MemoryBank MemoryLine P}
  {station : Station MemoryBank MemoryLine P} {handle : Handle} {levels : Level × Level}

/-- The device is attached, its controller has the two lines of the target, and the table has them at
the levels. -/
structure InUse (lifecycle : Lifecycle MemoryBank MemoryLine P) (handle : Handle)
    (station : Station MemoryBank MemoryLine P) (levels : Level × Level) : Prop where
  phase : station.phase = .attached
  holding : ∃ name reset bootSelect, station.controllers handle =
    ⟨name, .holding ⟨⟨lifecycle.target.resetLine, reset⟩,
      ⟨lifecycle.target.bootSelectLine, bootSelect⟩⟩⟩
  reset : (station.world.entryAt lifecycle.target.resetLine).map MemoryEntry.level = some levels.1
  bootSelect :
    (station.world.entryAt lifecycle.target.bootSelectLine).map MemoryEntry.level = some levels.2

namespace InUse

/-- Every use is answered from the levels, and leaves what it is to leave. -/
theorem step (hhardware : lifecycle.hardware = memoryHardware)
    (hne : lifecycle.target.resetLine ≠ lifecycle.target.bootSelectLine)
    (h : lifecycle.InUse handle station levels) (use : Use α) :
    (use.action lifecycle handle station).outcome = .ofExcept (use.answer lifecycle levels) ∧
      lifecycle.InUse handle (use.action lifecycle handle station).world (use.leaves levels) := by
  obtain ⟨hphase, ⟨name, reset, bootSelect, hholding⟩, hreset, hbootSelect⟩ := h
  cases use with
  | ask request =>
    rw [Use.action, hhardware]
    let pair : LinePair MemoryLine :=
      ⟨⟨lifecycle.target.resetLine, reset⟩, ⟨lifecycle.target.bootSelectLine, bootSelect⟩⟩
    obtain ⟨hknows, hlevels⟩ : station.world.Knows pair ∧ station.world.levels pair = levels :=
      MemoryBank.knows_levels_iff.2 ⟨hreset, hbootSelect⟩
    obtain ⟨houtcome, hknows', hlevels', hstation⟩ :=
      Station.request_answers (reliable_memory hne) hholding hknows request
    rw [hlevels] at houtcome hlevels'
    obtain ⟨hreset', hbootSelect'⟩ := MemoryBank.knows_levels_iff.1 ⟨hknows', hlevels'⟩
    refine ⟨houtcome, ?_, ⟨name, reset, bootSelect, ?_⟩, hreset', hbootSelect'⟩
    · rw [hstation]; exact hphase
    · rw [hstation]; exact hholding
  | attach =>
    rw [Use.action, attach_refused (by rw [hphase]; decide), hphase]
    exact ⟨rfl, hphase, ⟨name, reset, bootSelect, hholding⟩, hreset, hbootSelect⟩
  | forceReset level =>
    have hknown : (station.world.entryAt lifecycle.target.resetLine).isSome := by
      rw [← Option.isSome_map, hreset]; rfl
    refine ⟨rfl, hphase, ⟨name, reset, bootSelect, hholding⟩, ?_, ?_⟩
    · exact (MemoryBank.entryAt_force hknown level _).trans (if_pos rfl)
    · exact (MemoryBank.entryAt_force hknown level _).trans ((if_neg hne.symm).trans hbootSelect)
  | forceBootSelect level =>
    have hknown : (station.world.entryAt lifecycle.target.bootSelectLine).isSome := by
      rw [← Option.isSome_map, hbootSelect]; rfl
    refine ⟨rfl, hphase, ⟨name, reset, bootSelect, hholding⟩, ?_, ?_⟩
    · exact (MemoryBank.entryAt_force hknown level _).trans ((if_neg hne).trans hreset)
    · exact (MemoryBank.entryAt_force hknown level _).trans (if_pos rfl)

/-- By induction on the uses, with `InUse` as the invariant. -/
theorem run (hhardware : lifecycle.hardware = memoryHardware)
    (hne : lifecycle.target.resetLine ≠ lifecycle.target.bootSelectLine)
    (h : lifecycle.InUse handle station levels) (uses : List ((α : Type) × Use α)) :
    lifecycle.InUse handle (Use.run lifecycle handle uses station)
      (Use.levelsAfter uses levels) := by
  induction uses generalizing station levels with
  | nil => exact h
  | cons use uses ih => exact ih (h.step hhardware hne use.2).2

end InUse

/-- An attachment in memory leaves the lines at the levels of a running coprocessor. -/
theorem inUse_of_attach (target : Target) {publisher : Publisher P} (reset bootSelect : LineSettings)
    (hne : target.resetLine ≠ target.bootSelectLine)
    (hlooks : ∀ name handle, (publisher.publish name handle).All PublisherCall.Looks)
    (hdone : ((inMemory target publisher reset bootSelect).attach station).outcome = .done handle) :
    (inMemory target publisher reset bootSelect).InUse handle
      ((inMemory target publisher reset bootSelect).attach station).world (.high, .low) := by
  obtain ⟨pair, before, hacquires, hdriven, hworld, hholding, hattached⟩ :=
    of_attach_looks memoryHardware_still hlooks hdone
  obtain ⟨hreset, -, -⟩ := MemoryLine.of_acquire hacquires.reset
  obtain ⟨hbootSelect, -, -⟩ := MemoryLine.of_acquire hacquires.bootSelect
  obtain rfl : pair = ⟨⟨target.resetLine, reset.polarity⟩,
      ⟨target.bootSelectLine, bootSelect.polarity⟩⟩ := by
    cases pair
    exact LinePair.mk.injEq .. ▸ ⟨hreset, hbootSelect⟩
  obtain ⟨hknows, hlevels⟩ := (settles_memory hne).drive hdriven
  obtain ⟨hresetLevel, hbootSelectLevel⟩ := MemoryBank.knows_levels_iff.1 ⟨hknows, hlevels⟩
  rw [hattached]
  refine ⟨rfl, ⟨_, _, _, hholding⟩, ?_, ?_⟩
  · exact hworld ▸ hresetLevel
  · exact hworld ▸ hbootSelectLevel

/-- After an attachment in memory and any row of uses the table has the levels that the uses leave,
every further use is answered from these levels, and what was written last is read back. -/
theorem attribute_follows_levels (target : Target) {publisher : Publisher P}
    (reset bootSelect : LineSettings) (hne : target.resetLine ≠ target.bootSelectLine)
    (hlooks : ∀ name handle, (publisher.publish name handle).All PublisherCall.Looks)
    (hdone : ((inMemory target publisher reset bootSelect).attach station).outcome = .done handle)
    (uses : List ((α : Type) × Use α)) :
    let lifecycle := inMemory target publisher reset bootSelect
    let now := Use.run lifecycle handle uses (lifecycle.attach station).world
    let levels := Use.levelsAfter uses (.high, .low)
    let read := Station.request lifecycle.hardware handle .content now
    let write (input : String) := Station.request lifecycle.hardware handle (.store input) now
    (now.world.entryAt target.resetLine).map MemoryEntry.level = some levels.1 ∧
      (now.world.entryAt target.bootSelectLine).map MemoryEntry.level = some levels.2 ∧
      (∀ {α : Type} (use : Use α), (use.action lifecycle handle now).outcome =
        .ofExcept (use.answer lifecycle levels)) ∧
      read.outcome = .done (toString (LogicalState.classify levels.1 levels.2).code ++ "\n") ∧
      (∀ input command, Command.parse input = .ok command →
        (write input).outcome = .done input.utf8ByteSize) ∧
      (∀ input failure, Command.parse input = .error failure →
        (write input).outcome = .failed failure ∧ ∃ text, failure = .invalidCommand text) ∧
      lifecycle.attach now = ⟨.failed (lifecycle.outOfPhase "attach" .attached), now, []⟩ ∧
      ∀ earlier input later command, uses = earlier ++ ⟨Nat, .ask (.store input)⟩ :: later →
        Command.parse input = .ok command → (∀ use ∈ later, use.2.Quiet) →
        read.outcome = .done (toString command.target.code ++ "\n") := by
  intro lifecycle now levels read write
  have hinUse : lifecycle.InUse handle now levels :=
    (inUse_of_attach target reset bootSelect hne hlooks hdone).run rfl hne uses
  have hanswer {α : Type} (use : Use α) := (hinUse.step rfl hne use).1
  have hwrite (input : String) : (write input).outcome =
      .ofExcept ((Command.parse input).map fun _ => input.utf8ByteSize) :=
    hanswer (.ask (.store input))
  have hread : read.outcome =
      .done (toString (LogicalState.classify levels.1 levels.2).code ++ "\n") :=
    hanswer (.ask .content)
  refine ⟨hinUse.reset, hinUse.bootSelect, hanswer, hread, ?_, ?_, ?_, ?_⟩
  · intro input command hparse
    rw [hwrite, hparse]
    rfl
  · intro input failure hparse
    refine ⟨?_, Command.parse_error hparse⟩
    rw [hwrite, hparse]
    rfl
  · simp [attach, Action.bind_apply, Action.andThen, Action.world, Action.fail, hinUse.phase]
  · intro earlier input later command huses hparse hquiet
    have hlevels : levels = command.levels := by
      change Use.levelsAfter uses (.high, .low) = _
      rw [huses, Use.levelsAfter, List.foldl_append, List.foldl_cons]
      refine (Use.levelsAfter_of_quiet hquiet _).trans ?_
      simp [Use.leaves, Request.leaves, Request.command?, hparse, Except.toOption]
    rw [hread, hlevels]
    exact congrArg (fun state => Outcome.done (toString (LogicalState.code state) ++ "\n"))
      command.classify_levels

/-- The device is held in reset, someone forces a line, and what else is tried is refused. -/
def disturbance : List ((α : Type) × Use α) :=
  [⟨_, .ask (.store "0")⟩, ⟨_, .forceBootSelect .low⟩, ⟨_, .attach⟩, ⟨_, .ask (.store "5")⟩]

/-- After that the attribute reads 2. -/
theorem attribute_follows_levels_disturbed :
    let lifecycle := inMemory .portenta Bench.boardPublisher ⟨none, .activeHigh⟩ ⟨none, .activeHigh⟩
    let attached := lifecycle.attach (.initial .empty .empty)
    attached.outcome = .done 0 ∧
      (Station.request lifecycle.hardware 0 .content
        (Use.run lifecycle 0 disturbance attached.world)).outcome = .done "2\n" := by
  have hdone : ((inMemory .portenta Bench.boardPublisher ⟨none, .activeHigh⟩
      ⟨none, .activeHigh⟩).attach (.initial .empty .empty)).outcome = .done 0 := by rfl
  have hlevels : Use.levelsAfter disturbance (.high, .low) = (.low, .low) := by rfl
  obtain ⟨-, -, -, hread, -⟩ := attribute_follows_levels .portenta ⟨none, .activeHigh⟩
    ⟨none, .activeHigh⟩ (by decide) Bench.boardPublisher_looks hdone disturbance
  rw [hlevels] at hread
  exact ⟨hdone, hread⟩

end Lifecycle

end CoprocReset
