import CoprocReset.Proofs.Lifecycle.FailStop
import CoprocReset.Proofs.Lifecycle.LikeNew

/-!
# What may have happened before

A scene is a station with lines in memory, and the lines that others have there. What can happen at
a scene is an `Incident`: something is asked of the lifecycle or of a controller, someone meddles
with the publisher or with the lines, or others acquire lines and give them back. After any row of
incidents the station is `Orderly` (`orderly_run`): it is at rest, or its device is attached, or a
crash has broken off what was done there. At rest it is `Clear`: nothing is published, nobody has a
line but the others, and the numbers of controllers to come are unused.

None of this depends on levels or on what a publisher keeps beside its table, so it is a matter of
the `Outline` of a station. Requests, startups and the work of a publisher leave the outline as it
is (`steady_request`, `steady_startUp_outline`, `steady_work`).
-/

namespace CoprocReset

variable {P N S α : Type}

/-! ## Outlines -/

/-- What a station looks like to those who do not care for levels: who has which line, what is in the
table of the publisher, and what is in the books. -/
structure Outline where
  held : String → Bool
  table : List (String × Handle)
  books : Books MemoryLine

namespace Publisher.Tabled

variable {publisher : Publisher P} (tabled : publisher.Tabled N S)

/-- The outline of a station. -/
def outline (station : Station MemoryBank MemoryLine P) : Outline :=
  ⟨station.world.heldAt, tabled.tablePart.get station, station.books⟩

theorem steady_request (handle : Handle) (request : Request α) :
    (Station.request memoryHardware handle request).Steady tabled.outline := by
  intro station
  have hkeeps : memoryHardware.Keeps fun bank => bank.heldAt = station.world.heldAt :=
    Hardware.keeps_of_still memoryHardware_still fun line level bank h =>
      (funext fun name => MemoryBank.heldAt_set line level bank name).trans h
  obtain ⟨hheld, hbooks⟩ := Station.request_leaves memoryHardware_calm hkeeps handle request rfl
  rw [outline, hheld, hbooks]
  rfl

/-- What the publisher does with its record and its settings does not show. -/
theorem steady_rest (action : Action (List N × S) α) :
    (action.on tabled.restPart : Action (Station MemoryBank MemoryLine P) α).Steady
      tabled.outline :=
  Action.steady_on (fun rest station => by rw [outline, tabled.table_set_rest]; rfl) action

theorem steady_ask (name : String) (request : Request α) :
    (tabled.ask memoryHardware name request).Steady tabled.outline := by
  have hlook : (Action.world.on tabled.tablePart).Steady tabled.outline := fun station =>
    congrArg tabled.outline (tabled.tablePart.set_get station)
  refine hlook.bind fun entries => ?_
  cases entries.lookup name with
  | some handle => exact tabled.steady_request handle request
  | none => exact Action.steady_fail _

theorem steady_work (handle : Handle) (script : AttributeScript N S α) :
    (script.exec memoryHardware tabled.rest handle).Steady tabled.outline := by
  refine Script.steady_exec _ (fun call => ?_) script
  cases call with
  | own call => exact tabled.steady_rest call.perform
  | request asked => exact tabled.steady_request handle asked

theorem outline_set_table (entries : List (String × Handle))
    (station : Station MemoryBank MemoryLine P) :
    tabled.outline (tabled.tablePart.set entries station) =
      { tabled.outline station with table := entries } := by
  rw [outline, tabled.tablePart.get_set]
  rfl

theorem yields_publish (name : String) (handle : Handle)
    (station : Station MemoryBank MemoryLine P) :
    (Publisher.exec memoryHardware (publisher.publish name handle)).Yields station
      fun result later => tabled.outline later =
        match result with
        | .ok _ =>
          { tabled.outline station with
            table := Assoc.insert name handle (tabled.outline station).table }
        | .error _ => tabled.outline station := by
  rw [tabled.exec_publish, Action.yields_bind]
  refine ((tabled.steady_work handle _).yields station).mono fun result later hlater => ?_
  cases result with
  | error failure => exact hlater
  | ok _ =>
    have htable : tabled.tablePart.get later = (tabled.outline station).table :=
      congrArg Outline.table hlater
    refine Action.yields_on.2 ((Action.yields_update _).2 ?_)
    rw [tabled.outline_set_table, hlater, htable]

/-- The attribute is forgotten, whatever comes of it. -/
theorem yields_unpublish (name : String) (station : Station MemoryBank MemoryLine P) :
    (Publisher.exec memoryHardware (publisher.unpublish name)).Yields station fun _ later =>
      tabled.outline later =
        { tabled.outline station with table := Assoc.erase name (tabled.outline station).table } := by
  have hset := tabled.outline_set_table (Assoc.erase name (tabled.outline station).table) station
  rw [tabled.exec_unpublish, ← hset]
  refine .look_bind (.update_on_bind ?_)
  cases (tabled.tablePart.get station).lookup name with
  | some handle => exact (tabled.steady_work handle _).yields _
  | none => exact (tabled.steady_rest _).yields _

end Publisher.Tabled

/-! ## What a device has and leaves -/

namespace Outline

/-- The numbers from the next one on are unused. -/
def Unused (outline : Outline) : Prop :=
  ∀ handle, outline.books.made ≤ handle → outline.books.controllers handle = ⟨"", .vacant⟩

/-- Where a controller was replaced or made, the numbers that come after it are still unused. -/
theorem Unused.replace {outline outline' : Outline} {handle : Handle}
    {controller : Controller MemoryLine} (h : outline.Unused)
    (hcontrollers : outline'.books.controllers =
      Station.replace outline.books.controllers handle controller)
    (hmade : outline.books.made ≤ outline'.books.made) (hhandle : handle < outline'.books.made) :
    outline'.Unused := by
  intro other hother
  have hne : other ≠ handle := Nat.ne_of_gt (Nat.lt_of_lt_of_le hhandle hother)
  rw [hcontrollers]
  exact (if_neg hne).trans (h other (Nat.le_trans hmade hother))

/-- Nothing is attached or published, and nobody has a line but those who may. -/
structure Clear (allowed : String → Prop) (outline : Outline) : Prop where
  unused : outline.Unused
  current : outline.books.current = none
  table : outline.table = []
  held {name : String} (h : outline.held name = true) : allowed name

theorem Clear.mono {allowed allowed' : String → Prop} {outline : Outline} (h : outline.Clear allowed)
    (himp : ∀ name, allowed name → allowed' name) : outline.Clear allowed' :=
  { h with held := fun hheld => himp _ (h.held hheld) }

theorem Clear.setPhase {publisher : Publisher P} {tabled : publisher.Tabled N S}
    {allowed : String → Prop} {station : Station MemoryBank MemoryLine P}
    (h : (tabled.outline station).Clear allowed) (phase : Phase) :
    (tabled.outline { station with phase }).Clear allowed :=
  ⟨h.unused, h.current, h.table, h.held⟩

end Outline

namespace Lifecycle

variable {lifecycle : Lifecycle MemoryBank MemoryLine P} {allowed : String → Prop} {outline : Outline}
  {station : Station MemoryBank MemoryLine P} {handle : Handle}

/-- A controller has the lines of the lifecycle, and nobody has another line but those who may. -/
structure Holding (lifecycle : Lifecycle MemoryBank MemoryLine P) (allowed : String → Prop)
    (handle : Handle) (outline : Outline) : Prop where
  unused : outline.Unused
  made : handle < outline.books.made
  holding : outline.books.controllers handle =
    ⟨lifecycle.target.attributeName, .holding lifecycle.memoryPair⟩
  held {name : String} (h : outline.held name = true) :
    allowed name ∨ lifecycle.memoryPair.Has name

variable (hmemory : lifecycle.hardware = memoryHardware) {tabled : lifecycle.publisher.Tabled N S}
include hmemory

/-! ## Lines -/

theorem yields_acquire_clear (request : LineRequest)
    (h : (tabled.outline station).Clear allowed) :
    (lifecycle.lines.acquire request).Yields station fun result later =>
      match result with
      | .ok line => line = ⟨request.name, request.polarity⟩ ∧
        (tabled.outline later).Clear fun name => allowed name ∨ name = request.name
      | .error _ => (tabled.outline later).Clear allowed := by
  rw [lines, hmemory]
  refine Action.yields_on.2 ?_
  obtain ⟨-, hrun⟩ | ⟨failure, hrun⟩ := MemoryLine.acquire_cases request station.world
  · have hrun' : memoryHardware.acquire request (Station.worldPart.get station) = _ := hrun
    rw [Action.Yields, hrun']
    refine ⟨rfl, { h with held := fun {name} hheld => ?_ }⟩
    by_cases hname : name = request.name
    · exact .inr hname
    · refine .inl (h.held ?_)
      rw [← hheld]
      exact ((MemoryBank.heldAt_put ..).trans (if_neg hname)).symm
  · have hrun' : memoryHardware.acquire request (Station.worldPart.get station) = _ := hrun
    rw [Action.Yields, hrun']
    exact h

theorem yields_acquireLines_clear (h : (tabled.outline station).Clear allowed) :
    lifecycle.acquireLines.Yields station fun result later =>
      match result with
      | .ok pair => pair = lifecycle.memoryPair ∧
        (tabled.outline later).Clear fun name => allowed name ∨ lifecycle.memoryPair.Has name
      | .error _ => (tabled.outline later).Clear allowed := by
  rw [acquireLines, Action.yields_bind]
  refine (yields_acquire_clear hmemory _ h).mono fun reset middle hmiddle => ?_
  cases reset with
  | error failure => exact hmiddle
  | ok reset =>
    obtain ⟨rfl, hmiddle⟩ := hmiddle
    dsimp only
    rw [Action.yields_bind, Action.yields_attempt]
    refine (yields_acquire_clear hmemory _ hmiddle).mono fun bootSelect later hlater => ?_
    cases bootSelect with
    | ok bootSelect =>
      obtain ⟨rfl, hlater⟩ := hlater
      refine (Action.yields_pure _).2 ⟨rfl, hlater.mono ?_⟩
      rintro name ((hname | hname) | hname)
      · exact .inl hname
      · exact .inr (.inl hname)
      · exact .inr (.inr hname)
    | error failure =>
      dsimp only
      rw [Action.yields_bind, Action.yields_attempt, lines, hmemory]
      refine Action.yields_on.2 (Action.yields_of_run fun released _ => ?_)
      have hlast : (tabled.outline (Station.worldPart.set
          (lifecycle.memoryPair.reset.release later.world).world later)).Clear allowed := by
        refine { hlater with held := fun {name} hheld => ?_ }
        have hheld := (MemoryLine.heldAt_release lifecycle.memoryPair.reset _ name).symm.trans hheld
        split at hheld
        · cases hheld
        · next hname => exact (hlater.held hheld).resolve_right hname
      cases released with
      | ok _ => exact (Action.yields_fail _).2 hlast
      | error refusal => exact .note_bind ((Action.yields_fail _).2 hlast)

/-- A startup changes levels, and nothing else. -/
theorem steady_startUp_outline (pair : LinePair MemoryLine) :
    (pair.startUp lifecycle.lines lifecycle.target.settle).Steady tabled.outline := by
  refine LinePair.steady_startUp (fun ms station => ?_) (fun command station => ?_) _
  · rw [lines, hmemory]
    rfl
  · rw [lines, hmemory, Hardware.exec_within]
    exact congrArg (fun held => (⟨held, tabled.tablePart.get station, station.books⟩ : Outline))
      (steady_heldAt (pair.drive command) station.world)

theorem yields_release_clear
    (h : (tabled.outline station).Clear fun name => allowed name ∨ lifecycle.memoryPair.Has name) :
    (lifecycle.memoryPair.release lifecycle.lines).Yields station fun _ later =>
      (tabled.outline later).Clear allowed := by
  rw [lines, hmemory]
  refine yields_release (Action.yields_on.2 ?_)
  refine (yields_release_held fun _ => h.held).mono fun _ middle hmiddle => ?_
  refine Action.yields_on.2 (hmiddle.mono fun _ later hlater => ?_)
  exact { h with held := fun {name} => hlater name }

/-! ## Attaching -/

theorem yields_launch_clear (h : (tabled.outline station).Clear allowed) :
    lifecycle.launch.Yields station fun result later =>
      match result with
      | .ok handle => lifecycle.Holding allowed handle (tabled.outline later) ∧
        later.current = none ∧ tabled.tablePart.get later = []
      | .error _ => (tabled.outline later).Clear allowed := by
  rw [launch, Action.yields_bind]
  refine (yields_acquireLines_clear hmemory h).mono fun acquired taken htaken => ?_
  cases acquired with
  | error failure => exact htaken
  | ok pair =>
    obtain ⟨rfl, htaken⟩ := htaken
    have hcalm : lifecycle.hardware.Calm := hmemory ▸ memoryHardware_calm
    have hsteady : (lifecycle.memoryPair.startUp lifecycle.lines lifecycle.target.settle).Steady
        tabled.outline := steady_startUp_outline hmemory _
    dsimp only
    rw [Action.yields_bind, Scripted.startUp_eq hcalm, Action.yields_attempt]
    refine (hsteady.yields taken).mono fun started later hlater => ?_
    rw [← hlater] at htaken
    cases started with
    | ok _ =>
      have hunused : (tabled.outline (Station.makeController lifecycle.target.attributeName
          lifecycle.memoryPair later).world).Unused :=
        htaken.unused.replace rfl (Nat.le_succ _) (Nat.lt_succ_self _)
      exact ⟨⟨hunused, Nat.lt_succ_self _, Station.replace_same .., htaken.held⟩, htaken.current,
        htaken.table⟩
    | error failure =>
      dsimp only
      rw [Action.yields_bind, Action.yields_attempt]
      refine (yields_release_clear hmemory htaken).mono fun released last hlast => ?_
      cases released with
      | ok _ => exact (Action.yields_fail _).2 hlast
      | error refusal => exact .note_bind ((Action.yields_fail _).2 hlast)

theorem yields_tearDown_clear (h : lifecycle.Holding allowed handle (tabled.outline station))
    (hcurrent : station.current = none) (htable : tabled.tablePart.get station = []) :
    (lifecycle.tearDown handle).Yields station fun _ later =>
      (tabled.outline later).Clear allowed := by
  refine yields_tearDown h.holding ?_
  rw [hmemory]
  refine (yields_giveBack_held (fun _ => h.held) .hold).mono fun _ forced hforced => ?_
  refine hforced.mono fun _ middle hmiddle => hmiddle.mono fun _ later hlater => ?_
  exact ⟨h.unused.replace rfl (Nat.le_refl _) h.made, hcurrent, htable, fun {name} => hlater name⟩

theorem yields_announce_clear (h : lifecycle.Holding allowed handle (tabled.outline station))
    (hcurrent : station.current = none) (htable : tabled.tablePart.get station = []) :
    (lifecycle.announce handle).Yields station fun result later =>
      match result with
      | .ok handle => lifecycle.Holding allowed handle (tabled.outline later) ∧
        tabled.tablePart.get later = [(lifecycle.target.attributeName, handle)]
      | .error _ => (tabled.outline later).Clear allowed := by
  rw [announce, Action.yields_bind, Action.yields_attempt, hmemory]
  refine (tabled.yields_publish _ handle station).mono fun published later hlater => ?_
  cases published with
  | ok _ =>
    refine (Action.yields_pure _).2 ⟨?_, ?_⟩
    · rw [hlater]
      exact ⟨h.unused, h.made, h.holding, h.held⟩
    · refine (congrArg Outline.table hlater).trans ?_
      rw [show (tabled.outline station).table = [] from htable]
      rfl
  | error failure =>
    have hlater : tabled.outline later = tabled.outline station := hlater
    have hcurrent' : later.current = none :=
      (congrArg (fun outline => outline.books.current) hlater).trans hcurrent
    have htable' : tabled.tablePart.get later = [] := (congrArg Outline.table hlater).trans htable
    dsimp only
    rw [Action.yields_bind, Action.yields_attempt]
    refine (yields_tearDown_clear hmemory (hlater ▸ h) hcurrent' htable').mono ?_
    intro tornDown last hlast
    cases tornDown with
    | ok _ => exact (Action.yields_fail _).2 hlast
    | error refusal => exact .note_bind ((Action.yields_fail _).2 hlast)

/-! ## What a station can come to -/

/-- A station is at rest, or its device is attached, or a crash has broken off what was done there. -/
inductive Orderly (lifecycle : Lifecycle MemoryBank MemoryLine P)
    (tabled : lifecycle.publisher.Tabled N S) (allowed : String → Prop)
    (station : Station MemoryBank MemoryLine P) : Prop
  | unattached (hphase : station.phase = .unattached)
    (h : (tabled.outline station).Clear allowed)
  | attached (handle : Handle) (hphase : station.phase = .attached)
    (hcurrent : station.current = some handle)
    (htable : tabled.tablePart.get station = [(lifecycle.target.attributeName, handle)])
    (h : lifecycle.Holding allowed handle (tabled.outline station))
  | broken (h : ∀ verb : Verb, station.phase ≠ verb.phase)

omit hmemory in
/-- After a crash the device is neither attached nor detached any more. -/
theorem orderly_of_during (verb : Verb) (h : station.phase = verb.during) :
    lifecycle.Orderly tabled allowed station :=
  .broken fun other => by rw [h]; cases verb <;> cases other <;> nofun

theorem Orderly.attach (h : lifecycle.Orderly tabled allowed station) :
    lifecycle.Orderly tabled allowed (lifecycle.attach station).world := by
  by_cases hphase : station.phase = .unattached
  · cases h with
    | attached _ hphase' => exact absurd (hphase.symm.trans hphase') nofun
    | broken hbroken => exact absurd hphase (hbroken .attach)
    | unattached _ h =>
      have hcrash : lifecycle.attach.CrashLeaves station (lifecycle.Orderly tabled allowed) :=
        fun message hcrashed =>
          orderly_of_during .attach (lifecycle.attach_crashLeaves station message hcrashed)
      refine hcrash.always (yields_attach hphase ?_)
      rw [bringUp_eq, Action.yields_bind]
      refine (yields_launch_clear hmemory (h.setPhase .attaching)).mono ?_
      intro launched middle hmiddle
      cases launched with
      | error failure => exact .unattached rfl (hmiddle.setPhase _)
      | ok handle =>
        obtain ⟨hholding, hcurrent, htable⟩ := hmiddle
        refine (yields_announce_clear hmemory hholding hcurrent htable).mono ?_
        intro announced later hlater
        cases announced with
        | error failure => exact .unattached rfl (hlater.setPhase _)
        | ok handle =>
          obtain ⟨hholding, htable⟩ := hlater
          exact .attached handle rfl rfl htable
            ⟨hholding.unused, hholding.made, hholding.holding, hholding.held⟩
  · rwa [attach_refused hphase]

theorem Orderly.detach (h : lifecycle.Orderly tabled allowed station) :
    lifecycle.Orderly tabled allowed (lifecycle.detach station).world := by
  by_cases hphase : station.phase = .attached
  · cases h with
    | unattached hphase' => exact absurd (hphase.symm.trans hphase') nofun
    | broken hbroken => exact absurd hphase (hbroken .detach)
    | attached handle _ hcurrent htable h =>
      have hcrash : lifecycle.detach.CrashLeaves station (lifecycle.Orderly tabled allowed) :=
        fun message hcrashed =>
          orderly_of_during .detach (lifecycle.detach_crashLeaves station message hcrashed)
      refine hcrash.always (yields_detach hphase hcurrent h.holding ?_)
      rw [hmemory]
      refine (tabled.yields_unpublish lifecycle.target.attributeName
        { station with phase := .detaching }).mono fun unpublished withdrawn hwithdrawn => ?_
      have hbooks : withdrawn.books = Station.books { station with phase := .detaching } :=
        congrArg Outline.books hwithdrawn
      have hforgotten : tabled.tablePart.get withdrawn = [] := by
        refine (congrArg Outline.table hwithdrawn).trans ?_
        change Assoc.erase _ (tabled.tablePart.get station) = []
        rw [htable]
        simp [Assoc.erase]
      have hheld : withdrawn.world.heldAt = station.world.heldAt := congrArg Outline.held hwithdrawn
      have hallowed (name : String) (hname : withdrawn.world.heldAt name = true) :
          allowed name ∨ lifecycle.memoryPair.Has name :=
        h.held ((congrFun hheld name).symm.trans hname)
      refine (yields_giveBack_held hallowed .hold).mono ?_
      intro _ forced hforced
      refine hforced.mono fun _ middle hmiddle => hmiddle.mono fun _ later hlater => ?_
      have hmade : withdrawn.made = station.made := congrArg Books.made hbooks
      refine .unattached rfl ⟨?_, rfl, hforgotten, fun {name} => hlater name⟩
      exact h.unused.replace rfl (Nat.le_of_eq hmade.symm) (hmade ▸ h.made)
  · rwa [detach_refused hphase]

omit hmemory in
/-- Whoever leaves the table and the books alone may only take lines that others may have. -/
theorem Orderly.of_quiet {allowed' : String → Prop} {later : Station MemoryBank MemoryLine P}
    (h : lifecycle.Orderly tabled allowed station) (hbooks : later.books = station.books)
    (htable : tabled.tablePart.get later = tabled.tablePart.get station)
    (hheld : ∀ name, later.world.heldAt name = true →
      allowed' name ∨ station.world.heldAt name = true ∧ (allowed name → allowed' name)) :
    lifecycle.Orderly tabled allowed' later := by
  have hsame : tabled.outline later =
      ⟨later.world.heldAt, tabled.tablePart.get station, station.books⟩ := by
    rw [Publisher.Tabled.outline, hbooks, htable]
  have hphase : later.phase = station.phase := congrArg Books.phase hbooks
  cases h with
  | broken hbroken => exact .broken (hphase ▸ hbroken)
  | unattached hunattached h =>
    refine .unattached (hphase.trans hunattached) ?_
    rw [hsame]
    refine ⟨h.unused, h.current, h.table, fun hname => ?_⟩
    exact (hheld _ hname).elim id fun hbefore => hbefore.2 (h.held hbefore.1)
  | attached handle hattached hcurrent hentry h =>
    refine .attached handle (hphase.trans hattached)
      ((congrArg Books.current hbooks).trans hcurrent) (htable.trans hentry) ?_
    rw [hsame]
    refine ⟨h.unused, h.made, h.holding, fun hname => ?_⟩
    exact (hheld _ hname).elim .inl fun hbefore => (h.held hbefore.1).imp_left hbefore.2

end Lifecycle

/-! ## Scenes -/

/-- What can be asked of a lifecycle and of the controllers that it makes, by the type of the answer. A
request goes to a controller that someone knows, or to the one that is published under a name. -/
inductive Demand : Type → Type 1 where
  | attach : Demand Handle
  | detach : Demand Unit
  | ask {α : Type} (handle : Handle) (request : Request α) : Demand α
  | askNamed {α : Type} (name : String) (request : Request α) : Demand α

/-- What is done to meet a demand. -/
def Demand.action (lifecycle : Lifecycle MemoryBank MemoryLine P)
    (tabled : lifecycle.publisher.Tabled N S) :
    Demand α → Action (Station MemoryBank MemoryLine P) α
  | .attach => lifecycle.attach
  | .detach => lifecycle.detach
  | .ask handle request => Station.request lifecycle.hardware handle request
  | .askNamed name request => tabled.ask lifecycle.hardware name request

/-- What can happen where a lifecycle is used: something is asked of it, someone meddles with the
publisher or the lines, or acquires lines and gives them back. -/
inductive Incident (S : Type) : Type 1 where
  | demand {α : Type} (demand : Demand α)
  | settings (change : S → S)
  | refuse (name : String) (code : Files.OsCode)
  | allow (name : String)
  | force (name : String) (level : Level)
  | acquire (request : LineRequest)
  | release (line : MemoryLine)

/-- A station, and the lines that others have. -/
structure Scene (P : Type) where
  station : Station MemoryBank MemoryLine P
  taken : List MemoryLine

namespace Scene

variable (lifecycle : Lifecycle MemoryBank MemoryLine P) (tabled : lifecycle.publisher.Tabled N S)

/-- The scene with what an action on the station comes to. -/
def act (scene : Scene P) (action : Action (Station MemoryBank MemoryLine P) α) : Scene P :=
  { scene with station := (action scene.station).world }

/-- The scene after an incident. Others can only give back what they have. -/
def after (scene : Scene P) : Incident S → Scene P
  | .demand demand => scene.act (demand.action lifecycle tabled)
  | .settings change => scene.act ((Action.update change).on tabled.settingsPart)
  | .refuse name code => scene.act ((Action.update (·.refuse name code)).on Station.worldPart)
  | .allow name => scene.act ((Action.update (·.allow name)).on Station.worldPart)
  | .force name level => scene.act ((Action.update (·.force name level)).on Station.worldPart)
  | .acquire request =>
    let run := MemoryLine.acquire request scene.station.world
    { station := { scene.station with world := run.world }
      taken :=
        match run.outcome with
        | .done line => line :: scene.taken
        | _ => scene.taken }
  | .release line =>
    if line ∈ scene.taken then
      { station := { scene.station with world := (line.release scene.station.world).world }
        taken := scene.taken.erase line }
    else scene

/-- The scene after a row of incidents. -/
def run (incidents : List (Incident S)) (scene : Scene P) : Scene P :=
  incidents.foldl (after lifecycle tabled) scene

/-- Others have a line of the name. -/
def Taken (scene : Scene P) (name : String) : Prop := ∃ line ∈ scene.taken, line.name = name

variable {lifecycle} {tabled}

/-- Who acquires a line has it. -/
theorem orderly_acquire {scene : Scene P}
    (h : lifecycle.Orderly tabled scene.Taken scene.station) (request : LineRequest) :
    lifecycle.Orderly tabled (scene.after lifecycle tabled (.acquire request)).Taken
      (scene.after lifecycle tabled (.acquire request)).station := by
  simp only [after]
  obtain ⟨-, hrun⟩ | ⟨failure, hrun⟩ := MemoryLine.acquire_cases request scene.station.world
  · rw [hrun]
    refine h.of_quiet rfl rfl fun name hname => ?_
    by_cases hrequest : name = request.name
    · exact .inl ⟨_, List.mem_cons_self, hrequest.symm⟩
    · have hbefore := (MemoryBank.heldAt_put ..).symm.trans hname
      rw [if_neg hrequest] at hbefore
      refine .inr ⟨hbefore, ?_⟩
      rintro ⟨line, hline, heq⟩
      exact ⟨line, List.mem_cons_of_mem _ hline, heq⟩
  · rw [hrun]
    exact h

/-- Nobody has the name of a line that was given back. -/
theorem orderly_release {scene : Scene P}
    (h : lifecycle.Orderly tabled scene.Taken scene.station) (line : MemoryLine) :
    lifecycle.Orderly tabled (scene.after lifecycle tabled (.release line)).Taken
      (scene.after lifecycle tabled (.release line)).station := by
  simp only [after]
  split
  case isFalse => exact h
  case isTrue =>
    refine h.of_quiet rfl rfl fun name hname => ?_
    have hbefore := (MemoryLine.heldAt_release line _ name).symm.trans hname
    split at hbefore
    · cases hbefore
    · next hne =>
      refine .inr ⟨hbefore, ?_⟩
      rintro ⟨other, hother, heq⟩
      have hdiffers : other ≠ line := fun hsame =>
        hne (heq.symm.trans (congrArg MemoryLine.name hsame))
      exact ⟨other, (List.mem_erase_of_ne hdiffers).2 hother, heq⟩

/-- Whatever happens, a station stays in order. -/
theorem orderly_after (hmemory : lifecycle.hardware = memoryHardware) {scene : Scene P}
    (h : lifecycle.Orderly tabled scene.Taken scene.station) (incident : Incident S) :
    lifecycle.Orderly tabled (scene.after lifecycle tabled incident).Taken
      (scene.after lifecycle tabled incident).station := by
  have hquiet {later : Station MemoryBank MemoryLine P}
      (hsame : tabled.outline later = tabled.outline scene.station) :
      lifecycle.Orderly tabled scene.Taken later :=
    h.of_quiet (congrArg Outline.books hsame) (congrArg Outline.table hsame) fun name hname =>
      .inr ⟨(congrFun (congrArg Outline.held hsame) name).symm.trans hname, id⟩
  cases incident with
  | demand demand =>
    cases demand with
    | attach => exact h.attach hmemory
    | detach => exact h.detach hmemory
    | ask handle request =>
      refine hquiet ?_
      change tabled.outline (Station.request lifecycle.hardware handle request _).world = _
      rw [hmemory]
      exact tabled.steady_request handle request scene.station
    | askNamed name request =>
      refine hquiet ?_
      change tabled.outline (tabled.ask lifecycle.hardware name request _).world = _
      rw [hmemory]
      exact tabled.steady_ask name request scene.station
  | settings change =>
    exact hquiet (tabled.steady_rest ((Action.update change).on Lens.second) scene.station)
  | refuse name code => exact hquiet rfl
  | allow name => exact hquiet rfl
  | force name level =>
    have hheld : (scene.station.world.force name level).heldAt = scene.station.world.heldAt :=
      funext fun other => MemoryBank.heldAt_force _ name level other
    exact hquiet (congrArg (fun held => (⟨held, tabled.tablePart.get scene.station,
      scene.station.books⟩ : Outline)) hheld)
  | acquire request => exact orderly_acquire h request
  | release line => exact orderly_release h line

/-- By induction on the incidents. -/
theorem orderly_run (hmemory : lifecycle.hardware = memoryHardware) {scene : Scene P}
    (h : lifecycle.Orderly tabled scene.Taken scene.station) (incidents : List (Incident S)) :
    lifecycle.Orderly tabled (scene.run lifecycle tabled incidents).Taken
      (scene.run lifecycle tabled incidents).station := by
  induction incidents generalizing scene with
  | nil => exact h
  | cons incident incidents ih => exact ih (orderly_after hmemory h incident)

/-- The scene before anything has happened. -/
def initial (kept : P) : Scene P := ⟨.initial .empty kept, []⟩

theorem orderly_initial {kept : P} (hkept : tabled.table.get kept = []) :
    lifecycle.Orderly tabled (initial kept).Taken (initial kept).station :=
  .unattached rfl ⟨fun _ _ => rfl, rfl, hkept, nofun⟩

end Scene

end CoprocReset
