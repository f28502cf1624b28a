import CoprocReset.Proofs.Lifecycle.FailSafe
import CoprocReset.Proofs.Lifecycle.Launch
import CoprocReset.Proofs.Line.LikeNew
import CoprocReset.Proofs.Tabled

/-!
# Stations with a past

A station on which controllers were made before has lines in memory that were acquired before, a
journal and a record with entries of earlier times, and controllers with higher numbers. It is like
a new one (`Lifecycle.LikeNew`) if there is no other difference: if its bank is like the new one for
those who use the pair of lines of the lifecycle (`MemoryBank.LikeNew`), its settings are the same,
and its table and its controllers are the same but for the numbers. The names of the lines that were
acquired since are carried along, and every controller that was made since and has lines has a pair
of such names.

There is one lemma for each part of the lifecycle, in the order in which `attach` and `detach` are
made of them: a call on a line, a script on a controller (`control_alike`), the work of a publisher
(`publish_alike`, `unpublish_alike`), the launch and the teardown. Together they give
`Renewed.attach_alike` and `Renewed.detach_alike`.
-/

namespace CoprocReset

/-! ## Tables with other numbers -/

/-- A table of controllers, each with a number that is higher by the count. -/
def Assoc.raise (count : Nat) (entries : List (String × Handle)) : List (String × Handle) :=
  entries.map fun entry => (entry.1, entry.2 + count)

namespace Assoc

variable (count : Nat) (name : String) (entries : List (String × Handle))

theorem erase_raise : erase name (raise count entries) = raise count (erase name entries) := by
  simp only [erase, raise, List.filter_map]
  rfl

theorem insert_raise (handle : Handle) :
    insert name (handle + count) (raise count entries) = raise count (insert name handle entries) := by
  rw [insert, erase_raise]
  rfl

theorem lookup_raise : (raise count entries).lookup name = (entries.lookup name).map (· + count) := by
  induction entries with
  | nil => rfl
  | cons entry entries ih =>
    rw [raise, List.map_cons, List.lookup_cons, List.lookup_cons]
    cases name == entry.1 with
    | true => rfl
    | false => exact ih

end Assoc

/-! ## Records with a past -/

section Rest

variable {N S α : Type} {earlier : List N} {rest new : List N × S}

/-- The settings are the same, and the one record goes on after the earlier one like the new one. -/
def SameSince (earlier : List N) (rest new : List N × S) : Prop :=
  rest.1 = earlier ++ new.1 ∧ rest.2 = new.2

theorem SameSince.perform_alike (h : SameSince earlier rest new) (call : OwnCall N S α) :
    Action.Alike call.perform call.perform rest new fun _ => SameSince earlier := by
  obtain ⟨hrecord, hsettings⟩ := h
  cases call with
  | record notice =>
    refine ⟨rfl, ?_, hsettings⟩
    change rest.1 ++ [notice] = earlier ++ (new.1 ++ [notice])
    rw [hrecord, List.append_assoc]
  | settings action =>
    refine .on ⟨?_, hrecord, ?_⟩
    · exact congrArg (fun part => (action part).outcome) hsettings.symm
    · exact congrArg (fun part => (action part).world) hsettings

end Rest

/-- What is taken away from a controller is the pair that it has. -/
theorem Station.yields_shutdown_pair {W L P : Type} {hw : Hardware W L} {station : Station W L P}
    (handle : Handle) : (Station.shutdown hw handle).Yields station fun result _ =>
      ∀ pair, result = .ok pair → (station.controllers handle).custody = .holding pair := by
  rcases hcontroller : station.controllers handle with ⟨name, pair | _ | _⟩
  case holding =>
    refine Lifecycle.yields_shutdown hcontroller (Action.yields_of_forall fun _ _ => ?_)
    rintro pair' ⟨⟩
    rfl
  all_goals
    refine Station.yields_control.2 ?_
    rw [hcontroller, Controller.shutdown, Controller.exec, Script.exec_bind, Action.yields_bind,
      Controller.inside, Script.exec_ask]
    rintro _ ⟨⟩

namespace Lifecycle

variable {P N S α : Type} {lifecycle : Lifecycle MemoryBank MemoryLine P}

/-- The pair of lines that the lifecycle acquires. -/
def memoryPair (lifecycle : Lifecycle MemoryBank MemoryLine P) : LinePair MemoryLine :=
  .inMemory lifecycle.resetRequest lifecycle.bootSelectRequest

/-- The station is like the new one, but for what is left of its past: a bank with a past, and
controllers of which there were some before. -/
structure LikeNew (tabled : lifecycle.publisher.Tabled N S) (past : Station MemoryBank MemoryLine P)
    (acquired : String → Prop) (station new : Station MemoryBank MemoryLine P) : Prop where
  world : MemoryBank.LikeNew lifecycle.memoryPair past.world.journal acquired station.world new.world
  table : tabled.tablePart.get station = Assoc.raise past.made (tabled.tablePart.get new)
  rest : SameSince (tabled.restPart.get past).1 (tabled.restPart.get station)
    (tabled.restPart.get new)
  controllers (handle : Handle) : station.controllers (handle + past.made) = new.controllers handle
  holds {handle : Handle} {pair : LinePair MemoryLine}
    (h : (new.controllers handle).custody = .holding pair) :
    pair = lifecycle.memoryPair ∧ ∀ name, pair.Has name → acquired name
  made : station.made = new.made + past.made
  phase : station.phase = new.phase
  current : station.current = new.current.map (· + past.made)

/-- The station is like the new one, whatever was acquired. -/
def Renewed (tabled : lifecycle.publisher.Tabled N S)
    (past station new : Station MemoryBank MemoryLine P) : Prop :=
  ∃ acquired, lifecycle.LikeNew tabled past acquired station new

namespace LikeNew

variable {tabled : lifecycle.publisher.Tabled N S} {past station new : Station MemoryBank MemoryLine P}
  {acquired : String → Prop} {handle : Handle}

theorem setPhase (h : lifecycle.LikeNew tabled past acquired station new) (phase : Phase) :
    lifecycle.LikeNew tabled past acquired { station with phase } { new with phase } :=
  { h with phase := rfl }

theorem setCurrent (h : lifecycle.LikeNew tabled past acquired station new)
    (current : Option Handle) :
    lifecycle.LikeNew tabled past acquired
      { station with current := current.map (· + past.made) } { new with current } :=
  { h with current := rfl }

/-! ## Calls on the lines -/

/-- What is alike on the banks is alike at the stations. -/
theorem on_world {first second : Action MemoryBank α}
    (h : lifecycle.LikeNew tabled past acquired station new)
    (hworld : Action.Alike first second station.world new.world fun _ =>
      MemoryBank.LikeNew lifecycle.memoryPair past.world.journal acquired) :
    Action.Alike (first.on Station.worldPart) (second.on Station.worldPart) station new
      fun _ => lifecycle.LikeNew tabled past acquired :=
  .on (hworld.mono fun _ _ _ hlater => { h with world := hlater })

/-! ## Controllers -/

/-- A controller of both sides, with the banks that it works on. -/
structure SameController (lifecycle : Lifecycle MemoryBank MemoryLine P)
    (past : Station MemoryBank MemoryLine P) (acquired : String → Prop)
    (part new : MemoryBank × Controller MemoryLine) : Prop where
  world : MemoryBank.LikeNew lifecycle.memoryPair past.world.journal acquired part.1 new.1
  controller : part.2 = new.2
  holds {pair : LinePair MemoryLine} (h : new.2.custody = .holding pair) :
    pair = lifecycle.memoryPair ∧ ∀ name, pair.Has name → acquired name

theorem enter_alike {part part' : MemoryBank × Controller MemoryLine}
    (h : SameController lifecycle past acquired part part') (stay : Section MemoryLine α) :
    Action.Alike (Controller.enter memoryHardware stay) (Controller.enter memoryHardware stay) part
      part' fun _ => SameController lifecycle past acquired := by
  obtain ⟨bank, controller⟩ := part
  obtain ⟨new, name, custody⟩ := part'
  obtain rfl : controller = ⟨name, custody⟩ := h.controller
  cases custody with
  | vacant => exact ⟨rfl, h⟩
  | poisoned => exact ⟨rfl, h⟩
  | holding pair =>
    obtain ⟨hpair, hacquired⟩ := h.holds rfl
    obtain ⟨houtcome, hworld⟩ := h.world.exec_alike (stay.all_routine hacquired)
    simp only [Action.Alike, Controller.enter]
    refine ⟨houtcome, hworld, by rw [houtcome], fun {pair'} hholding => ?_⟩
    obtain rfl : pair' = pair := by
      generalize (memoryHardware.exec (stay.routine pair) new).outcome = outcome at hholding
      cases outcome <;> cases stay <;> cases hholding <;> rfl
    exact ⟨hpair, hacquired⟩

/-- A script on a controller is alike on both sides. -/
theorem control_alike (hmemory : lifecycle.hardware = memoryHardware)
    (h : lifecycle.LikeNew tabled past acquired station new) (handle : Handle)
    (script : String → ControllerScript MemoryLine α) :
    Action.Alike (Station.control lifecycle.hardware (handle + past.made) script)
      (Station.control lifecycle.hardware handle script) station new
      fun _ => lifecycle.LikeNew tabled past acquired := by
  have hsame : SameController lifecycle past acquired
      ((Station.device (handle + past.made)).get station) ((Station.device handle).get new) :=
    ⟨h.world, h.controllers handle, fun hholding => h.holds hholding⟩
  have hexec (script : ControllerScript MemoryLine α) :
      Action.Alike (Controller.exec memoryHardware script) (Controller.exec memoryHardware script)
        ((Station.device (handle + past.made)).get station) ((Station.device handle).get new)
        fun _ => SameController lifecycle past acquired := by
    refine Script.exec_alike (fun call part part' hpart => ?_) script hsame
    cases call with
    | enter stay => exact enter_alike hpart stay
    | note severity text => exact ⟨rfl, hpart⟩
  have hname : (station.controllers (handle + past.made)).name = (new.controllers handle).name := by
    rw [h.controllers]
  rw [hmemory, Action.Alike, Station.control, Station.control, hname]
  obtain ⟨houtcome, hpart⟩ := hexec (script (new.controllers handle).name)
  refine ⟨houtcome, { h with world := hpart.world, controllers := fun other => ?_, holds := ?_ }⟩
  · by_cases hother : other = handle
    · rw [hother]
      exact (Station.replace_same ..).trans (hpart.controller.trans (Station.replace_same ..).symm)
    · have hne : other + past.made ≠ handle + past.made := fun heq => hother (Nat.add_right_cancel heq)
      exact (if_neg hne).trans ((h.controllers other).trans (if_neg hother).symm)
  · intro other pair hholding
    by_cases hother : other = handle
    · exact hpart.holds ((congrArg Controller.custody (if_pos hother)).symm.trans hholding)
    · exact h.holds ((congrArg Controller.custody (if_neg hother)).symm.trans hholding)

/-! ## Publishers -/

/-- What is done with the record and the settings is alike if it is alike on them. -/
theorem on_rest {action : Action (List N × S) α}
    (h : lifecycle.LikeNew tabled past acquired station new)
    (hrest : Action.Alike action action (tabled.restPart.get station) (tabled.restPart.get new)
      fun _ => SameSince (tabled.restPart.get past).1) :
    Action.Alike (action.on tabled.restPart) (action.on tabled.restPart) station new
      fun _ => lifecycle.LikeNew tabled past acquired := by
  refine .on (hrest.mono fun _ later later' hlater => ?_)
  exact { h with
    table := by rw [tabled.table_set_rest, tabled.table_set_rest, h.table]
    rest := by rw [tabled.restPart.get_set, tabled.restPart.get_set]; exact hlater }

theorem work_alike (hmemory : lifecycle.hardware = memoryHardware)
    (h : lifecycle.LikeNew tabled past acquired station new) (handle : Handle)
    (script : AttributeScript N S α) :
    Action.Alike (script.exec lifecycle.hardware tabled.rest (handle + past.made))
      (script.exec lifecycle.hardware tabled.rest handle) station new
      fun _ => lifecycle.LikeNew tabled past acquired := by
  refine Script.exec_alike (fun call station new h => ?_) script h
  cases call with
  | request asked => exact control_alike hmemory h handle fun name => asked.script name
  | own call => exact h.on_rest (h.rest.perform_alike call)

/-- The table is changed on both sides. -/
theorem setTable (h : lifecycle.LikeNew tabled past acquired station new)
    (entries : List (String × Handle)) :
    lifecycle.LikeNew tabled past acquired
      (tabled.tablePart.set (Assoc.raise past.made entries) station)
      (tabled.tablePart.set entries new) :=
  { h with
    table := by rw [tabled.tablePart.get_set, tabled.tablePart.get_set]
    rest := by rw [tabled.rest_set_table, tabled.rest_set_table]; exact h.rest }

theorem publish_alike (hmemory : lifecycle.hardware = memoryHardware)
    (h : lifecycle.LikeNew tabled past acquired station new) (name : String) (handle : Handle) :
    Action.Alike
      (Publisher.exec lifecycle.hardware (lifecycle.publisher.publish name (handle + past.made)))
      (Publisher.exec lifecycle.hardware (lifecycle.publisher.publish name handle)) station new
      fun _ => lifecycle.LikeNew tabled past acquired := by
  rw [tabled.exec_publish, tabled.exec_publish]
  refine .bind ((work_alike hmemory h handle _).mono fun outcome later later' hlater => ?_)
  cases outcome with
  | failed failure => exact hlater
  | crashed message => exact hlater
  | done _ =>
    have hset := hlater.setTable (Assoc.insert name handle (tabled.tablePart.get later'))
    rw [← Assoc.insert_raise, ← hlater.table] at hset
    exact ⟨rfl, hset⟩

theorem unpublish_alike (hmemory : lifecycle.hardware = memoryHardware)
    (h : lifecycle.LikeNew tabled past acquired station new) (name : String) :
    Action.Alike (Publisher.exec lifecycle.hardware (lifecycle.publisher.unpublish name))
      (Publisher.exec lifecycle.hardware (lifecycle.publisher.unpublish name)) station new
      fun _ => lifecycle.LikeNew tabled past acquired := by
  have herase := h.setTable (Assoc.erase name (tabled.tablePart.get new))
  rw [← Assoc.erase_raise, ← h.table] at herase
  have hlookup := Assoc.lookup_raise past.made name (tabled.tablePart.get new)
  rw [← h.table] at hlookup
  rw [tabled.exec_unpublish]
  refine .look_bind (.update_on_bind ?_)
  rw [hlookup]
  cases (tabled.tablePart.get new).lookup name with
  | some handle => exact work_alike hmemory herase handle _
  | none =>
    refine herase.on_rest ?_
    exact Script.exec_alike (fun call _ _ hrest => hrest.perform_alike call) _ herase.rest

/-! ## Parts of the lifecycle -/

section Parts

variable (hmemory : lifecycle.hardware = memoryHardware)
  (h : lifecycle.LikeNew tabled past acquired station new)
include hmemory h

theorem acquire_alike {request : LineRequest} (hrequest : lifecycle.memoryPair.Has request.name) :
    Action.Alike (lifecycle.lines.acquire request) (lifecycle.lines.acquire request) station new
      fun outcome later later' => lifecycle.LikeNew tabled past acquired later later' ∧
        ∀ line, outcome = .done line → line = ⟨request.name, request.polarity⟩ ∧
          lifecycle.LikeNew tabled past (fun name => name = request.name ∨ acquired name)
            later later' := by
  rw [lines, hmemory]
  refine .on ((h.world.acquire_alike hrequest).mono fun outcome later later' hlater => ?_)
  refine ⟨{ h with world := hlater.1 }, fun line hline => ?_⟩
  obtain ⟨rfl, hworld⟩ := hlater.2 line hline
  exact ⟨rfl, { h with
    world := hworld
    holds := fun hholding =>
      ⟨(h.holds hholding).1, fun name hname => .inr ((h.holds hholding).2 name hname)⟩ }⟩

theorem release_alike (line : MemoryLine) (hline : acquired line.name) :
    Action.Alike (lifecycle.lines.release line) (lifecycle.lines.release line) station new
      fun _ => lifecycle.LikeNew tabled past acquired := by
  rw [lines, hmemory]
  exact h.on_world (h.world.release_alike hline)

theorem drive_alike {pair : LinePair MemoryLine} (hpair : ∀ name, pair.Has name → acquired name)
    (command : Command) :
    Action.Alike (lifecycle.lines.exec (pair.drive command))
      (lifecycle.lines.exec (pair.drive command)) station new
      fun _ => lifecycle.LikeNew tabled past acquired := by
  rw [lines, hmemory, Hardware.exec_within]
  exact h.on_world (h.world.exec_alike (LinePair.all_drive hpair command))

/-- Both lines are acquired on both sides, or on neither. -/
theorem acquireLines_alike :
    Action.Alike lifecycle.acquireLines lifecycle.acquireLines station new
      fun outcome later later' =>
        (∃ acquired', lifecycle.LikeNew tabled past acquired' later later') ∧
        ∀ pair, outcome = .done pair → pair = lifecycle.memoryPair ∧
          ∃ acquired', (∀ name, pair.Has name → acquired' name) ∧
            lifecycle.LikeNew tabled past acquired' later later' := by
  rw [acquireLines]
  refine .bind ((h.acquire_alike hmemory (.inl rfl)).mono fun outcome middle middle' hmiddle => ?_)
  obtain ⟨hmiddle, hdone⟩ := hmiddle
  cases outcome with
  | failed failure => exact ⟨⟨_, hmiddle⟩, by rintro _ ⟨⟩⟩
  | crashed message => exact ⟨⟨_, hmiddle⟩, by rintro _ ⟨⟩⟩
  | done reset =>
    obtain ⟨rfl, hmiddle⟩ := hdone reset rfl
    dsimp only [Action.Onward]
    refine .bind (.attempt ((hmiddle.acquire_alike hmemory (.inr rfl)).mono ?_))
    rintro outcome later later' ⟨hlater, hdone⟩
    cases outcome with
    | crashed message => exact ⟨⟨_, hlater⟩, by rintro _ ⟨⟩⟩
    | done bootSelect =>
      obtain ⟨rfl, hlater⟩ := hdone bootSelect rfl
      dsimp only [Action.Attempted, Action.Onward]
      refine Action.alike_pure ⟨⟨_, hlater⟩, ?_⟩
      rintro pair ⟨⟩
      refine ⟨rfl, _, ?_, hlater⟩
      rintro name (rfl | rfl)
      · exact .inr (.inl rfl)
      · exact .inl rfl
    | failed failure =>
      dsimp only [Action.Attempted, Action.Onward]
      have hrelease := hlater.release_alike hmemory lifecycle.memoryPair.reset (.inl rfl)
      refine .bind (.attempt (hrelease.mono ?_))
      intro outcome last last' hlast
      cases outcome with
      | crashed message => exact ⟨⟨_, hlast⟩, by rintro _ ⟨⟩⟩
      | done _ =>
        dsimp only [Action.Attempted, Action.Onward]
        exact Action.alike_fail ⟨⟨_, hlast⟩, by rintro _ ⟨⟩⟩
      | failed refusal =>
        dsimp only [Action.Attempted, Action.Onward]
        exact .note_bind (Action.alike_fail ⟨⟨_, hlast⟩, by rintro _ ⟨⟩⟩)

theorem startUp_alike {pair : LinePair MemoryLine} (hpair : ∀ name, pair.Has name → acquired name) :
    Action.Alike (lifecycle.startUp pair) (lifecycle.startUp pair) station new
      fun _ => lifecycle.LikeNew tabled past acquired := by
  have hcalm : lifecycle.hardware.Calm := hmemory ▸ memoryHardware_calm
  rw [Scripted.startUp_eq hcalm, LinePair.startUp]
  refine .attempt_keep (.note_bind (.note_bind ?_))
  refine (h.drive_alike hmemory hpair .hold).bind_keep fun _ station new h => .note_bind ?_
  have hwait : lifecycle.lines.wait lifecycle.target.settle.least = pure () := by
    rw [lines, hmemory]
    exact Action.pure_on ..
  rw [SettleWindow.wait, hwait, pure_bind, pure_bind]
  refine .note_bind ((h.drive_alike hmemory hpair .release).bind_keep fun _ station new h => ?_)
  exact ⟨rfl, h⟩

theorem releasePair_alike {pair : LinePair MemoryLine}
    (hpair : ∀ name, pair.Has name → acquired name) :
    Action.Alike (pair.release lifecycle.lines) (pair.release lifecycle.lines) station new
      fun _ => lifecycle.LikeNew tabled past acquired := by
  rw [LinePair.release]
  refine (h.release_alike hmemory _ (hpair _ (.inl rfl))).attempt_keep.bind_keep ?_
  intro reset station new h
  refine (h.release_alike hmemory _ (hpair _ (.inr rfl))).attempt_keep.bind_keep ?_
  intro bootSelect station new h
  cases bootSelect with
  | ok _ => exact Action.alike_ofExcept h
  | error failure => exact .note_bind (Action.alike_ofExcept h)

/-- What is taken away from a controller is the pair that it has. -/
theorem tearDown_alike (handle : Handle) :
    Action.Alike (lifecycle.tearDown (handle + past.made)) (lifecycle.tearDown handle) station new
      fun _ => lifecycle.LikeNew tabled past acquired := by
  obtain ⟨hsame, hlater⟩ := control_alike hmemory h handle Controller.shutdown
  refine .bind ⟨hsame, ?_⟩
  cases houtcome : (Station.shutdown lifecycle.hardware (handle + past.made) station).outcome with
  | failed failure => exact hlater
  | crashed message => exact hlater
  | done pair =>
    have hdone := hsame.trans houtcome
    obtain ⟨-, hacquired⟩ := h.holds ((Station.yields_shutdown_pair handle).done hdone pair rfl)
    exact hlater.releasePair_alike hmemory hacquired

end Parts

/-- A controller is made on both sides, each with the next number there. -/
theorem makeController_alike (h : lifecycle.LikeNew tabled past acquired station new) (name : String)
    {pair : LinePair MemoryLine} (hpair : pair = lifecycle.memoryPair)
    (hacquired : ∀ name, pair.Has name → acquired name) :
    Action.Alike (Station.makeController name pair)
      ((· + past.made) <$> Station.makeController name pair) station new
      fun _ => lifecycle.LikeNew tabled past acquired := by
  rw [Action.Alike, Action.map_apply]
  refine ⟨congrArg Outcome.done h.made.symm,
    { h with controllers := fun handle => ?_, holds := ?_, made := ?_ }⟩
  · simp only [Station.makeController, Station.replace, h.made, Nat.add_right_cancel_iff,
      h.controllers]
  · intro handle pair' hholding
    dsimp only [Station.makeController, Station.replace] at hholding
    split at hholding
    · cases hholding
      exact ⟨hpair, hacquired⟩
    · exact h.holds hholding
  · simp only [Station.makeController, h.made, Nat.add_right_comm]

/-! ## Attaching and detaching -/

section Verbs

variable (hmemory : lifecycle.hardware = memoryHardware)
include hmemory

theorem launch_alike (h : lifecycle.LikeNew tabled past acquired station new) :
    Action.Alike lifecycle.launch ((· + past.made) <$> lifecycle.launch) station new
      fun _ => lifecycle.Renewed tabled past := by
  rw [launch, map_bind]
  refine .bind ((h.acquireLines_alike hmemory).mono fun outcome station new hacquired => ?_)
  obtain ⟨hrenewed, hdone⟩ := hacquired
  cases outcome with
  | failed failure => exact hrenewed
  | crashed message => exact hrenewed
  | done pair =>
    obtain ⟨hpair, acquired, hacquired, h⟩ := hdone pair rfl
    dsimp only [Action.Onward]
    rw [map_bind]
    refine .bind ((h.startUp_alike hmemory hacquired).mono fun outcome station new h => ?_)
    cases outcome with
    | failed failure => exact ⟨_, h⟩
    | crashed message => exact ⟨_, h⟩
    | done started =>
      cases started with
      | ok _ =>
        dsimp only [Action.Onward]
        exact (h.makeController_alike _ hpair hacquired).mono fun _ _ _ h => ⟨_, h⟩
      | error failure =>
        dsimp only [Action.Onward]
        rw [map_bind]
        have hrelease : Action.Alike _ _ station new fun _ => lifecycle.Renewed tabled past :=
          (h.releasePair_alike hmemory hacquired).mono fun _ _ _ h => ⟨_, h⟩
        refine hrelease.attempt_keep.bind_keep fun released station new h => ?_
        cases released with
        | ok _ => exact Action.alike_fail h
        | error refusal =>
          rw [map_bind]
          exact .note_bind (Action.alike_fail h)

theorem announce_alike (h : lifecycle.LikeNew tabled past acquired station new) (handle : Handle) :
    Action.Alike (lifecycle.announce (handle + past.made))
      ((· + past.made) <$> lifecycle.announce handle) station new
      fun _ => lifecycle.LikeNew tabled past acquired := by
  rw [announce, announce, map_bind]
  refine (publish_alike hmemory h _ handle).attempt_keep.bind_keep fun published station new h => ?_
  cases published with
  | ok _ =>
    rw [map_pure]
    exact Action.alike_pure h
  | error failure =>
    rw [map_bind]
    refine (h.tearDown_alike hmemory handle).attempt_keep.bind_keep ?_
    intro tornDown station new h
    cases tornDown with
    | ok _ => exact Action.alike_fail h
    | error refusal =>
      rw [map_bind]
      exact .note_bind (Action.alike_fail h)

theorem bringUp_alike (h : lifecycle.LikeNew tabled past acquired station new) :
    Action.Alike lifecycle.bringUp ((· + past.made) <$> lifecycle.bringUp) station new
      fun _ => lifecycle.Renewed tabled past := by
  rw [bringUp_eq, map_bind]
  refine (h.launch_alike hmemory).bind_map fun handle station new h => ?_
  obtain ⟨acquired, h⟩ := h
  exact (h.announce_alike hmemory handle).mono fun _ _ _ h => ⟨_, h⟩

theorem dismiss_alike (h : lifecycle.LikeNew tabled past acquired station new) :
    Action.Alike lifecycle.dismiss lifecycle.dismiss station new
      fun _ => lifecycle.LikeNew tabled past acquired := by
  rw [dismiss]
  refine .world_bind ?_
  rw [h.current]
  cases new.current with
  | none => exact Action.alike_fail h
  | some handle =>
    exact .update_bind (tearDown_alike hmemory (h.setCurrent none) handle)

end Verbs

end LikeNew

namespace Renewed

variable {tabled : lifecycle.publisher.Tabled N S} {past station new : Station MemoryBank MemoryLine P}
  (hmemory : lifecycle.hardware = memoryHardware)
include hmemory

/-- An attachment comes to the same end, with the next controller on either side. -/
theorem attach_alike (h : lifecycle.Renewed tabled past station new) :
    Action.Alike lifecycle.attach ((· + past.made) <$> lifecycle.attach) station new
      fun _ => lifecycle.Renewed tabled past := by
  obtain ⟨acquired, h⟩ := h
  rw [attach, map_bind]
  refine .world_bind ?_
  rw [h.phase]
  by_cases hphase : new.phase = .unattached
  · simp only [hphase, ne_eq, not_true_eq_false, if_false, map_bind]
    refine .note_bind (.update_bind ?_)
    have hbegun := LikeNew.bringUp_alike hmemory (h.setPhase .attaching)
    have hattempt := hbegun.attempt_keep
    rw [Action.attempt_map] at hattempt
    refine hattempt.bind_map fun result station new h => ?_
    obtain ⟨acquired, h⟩ := h
    cases result with
    | ok handle =>
      simp only [map_bind, map_pure]
      have hattached := (h.setCurrent (some handle)).setPhase .attached
      exact .update_bind (.update_bind (.note_bind (Action.alike_pure ⟨_, hattached⟩)))
    | error failure =>
      simp only [map_bind, Action.map_fail]
      exact .note_bind (.update_bind (Action.alike_fail ⟨_, h.setPhase .unattached⟩))
  · simp only [hphase, ne_eq, not_false_eq_true, if_true]
    exact Action.alike_fail ⟨_, h⟩

theorem detach_alike (h : lifecycle.Renewed tabled past station new) :
    Action.Alike lifecycle.detach lifecycle.detach station new
      fun _ => lifecycle.Renewed tabled past := by
  obtain ⟨acquired, h⟩ := h
  rw [detach]
  refine .world_bind ?_
  rw [h.phase]
  by_cases hphase : new.phase = .attached
  · simp only [hphase, ne_eq, not_true_eq_false, if_false]
    refine .note_bind (.update_bind ?_)
    have hwithdrawn := (h.setPhase .detaching).unpublish_alike hmemory lifecycle.target.attributeName
    refine .mono (hwithdrawn.attempt_keep.bind_keep fun unpublished station new h => ?_)
      fun _ _ _ h => ⟨_, h⟩
    have hdismiss : Action.Alike
        (lifecycle.dismiss.attempt >>= fun released => do
          setPhase .unattached
          Action.noteInfo (lifecycle.target.attributeName ++ " detached")
          Action.ofExcept (released >>= fun () => unpublished))
        (lifecycle.dismiss.attempt >>= fun released => do
          setPhase .unattached
          Action.noteInfo (lifecycle.target.attributeName ++ " detached")
          Action.ofExcept (released >>= fun () => unpublished))
        station new fun _ => lifecycle.LikeNew tabled past acquired := by
      refine (h.dismiss_alike hmemory).attempt_keep.bind_keep fun released station new h => ?_
      exact .update_bind (.note_bind (Action.alike_ofExcept (h.setPhase .unattached)))
    cases unpublished with
    | ok _ => exact hdismiss
    | error failure => exact .note_bind hdismiss
  · simp only [hphase, ne_eq, not_false_eq_true, if_true]
    exact Action.alike_fail ⟨_, h⟩

end Renewed

end Lifecycle

end CoprocReset
