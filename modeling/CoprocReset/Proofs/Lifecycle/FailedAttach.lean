import CoprocReset.Proofs.Lifecycle.Errors

/-!
# What a failed attachment leaves behind

An attachment that has both lines may still fail, in its startup or because the attribute is not
published. Its lines are released in both cases, but only in the second case is the coprocessor
forced into reset before. So after a startup that was broken off the lines keep the levels that they
had come to, and it depends on the call that failed whether these hold the coprocessor in reset
(`attach_leaves`): they do not if it was the first call or the last.
-/

namespace CoprocReset

namespace Lifecycle

variable {W L P : Type}

/-- The failures of the calls in a history. -/
def failures (history : List (Event L)) : List Failure := history.filterMap Event.failure?

theorem failures_snoc (history : List (Event L)) (event : Event L) :
    failures (history ++ [event]) = failures history ++ event.failure?.toList :=
  filterMap_snoc ..

/-- What is recorded of an attachment that has made that many calls of its startup. -/
def begun (lifecycle : Lifecycle W L P) (pair : LinePair L) (made : List (StartupCall L)) :
    List (Event L) :=
  [.called .attach, .acquire lifecycle.resetRequest (.ok pair.reset),
    .acquire lifecycle.bootSelectRequest (.ok pair.bootSelect)] ++
    made.map (StartupCall.event (.ok ()))

/-- The levels of a pair can be told from the world as soon as its lines are acquired: they are high
then, and a call that fails leaves them as they are. -/
structure Watched (lifecycle : Lifecycle W L P) (pair : LinePair L) (levels : W → Level × Level) :
    Prop extends pair.Shown lifecycle.hardware levels where
  acquired (world : W)
    (hreset : (lifecycle.hardware.acquire lifecycle.resetRequest world).outcome =
      .done pair.reset)
    (hbootSelect : (lifecycle.hardware.acquire lifecycle.bootSelectRequest
      (lifecycle.hardware.acquire lifecycle.resetRequest world).world).outcome =
        .done pair.bootSelect) :
    levels (lifecycle.hardware.acquire lifecycle.bootSelectRequest
      (lifecycle.hardware.acquire lifecycle.resetRequest world).world).world = (.high, .high)
  reset_not_set {world : W} {level : Level} {failure : Failure}
    (h : (lifecycle.hardware.set pair.reset level world).outcome = .failed failure) :
    levels (lifecycle.hardware.set pair.reset level world).world = levels world
  bootSelect_not_set {world : W} {level : Level} {failure : Failure}
    (h : (lifecycle.hardware.set pair.bootSelect level world).outcome = .failed failure) :
    levels (lifecycle.hardware.set pair.bootSelect level world).world = levels world
  waited (ms : Nat) (world : W) : levels (lifecycle.hardware.wait ms world).world = levels world

/-- What an attachment leaves behind that had both lines and failed in one call: what is recorded of
it, and the levels of its lines. -/
inductive LeftBehind (lifecycle : Lifecycle W L P) (pair : LinePair L) (failure : Failure) :
    List (Event L) → Level × Level → Prop
  /-- The reset line is low from the first call of the startup on, until the last. -/
  | startUp {made left : List (StartupCall L)} {call : StartupCall L}
    (h : startupCalls lifecycle.target.settle pair = made ++ call :: left) :
    LeftBehind lifecycle pair failure
      (lifecycle.begun pair made ++ [call.event (.error failure)] ++
        [.release pair.reset (.ok ()), .release pair.bootSelect (.ok ()),
          .returned .attach (.failed failure)])
      (if made.isEmpty || left.isEmpty then (.high, .high) else (.low, .high))
  | publish :
    LeftBehind lifecycle pair failure
      (lifecycle.broughtUp pair ++ [.publish (.error failure)] ++
        [.set pair.reset .low (.ok ()), .set pair.bootSelect .high (.ok ())] ++
        [.release pair.reset (.ok ()), .release pair.bootSelect (.ok ()),
          .returned .attach (.failed failure)])
      (.low, .high)

/-- The levels of a pair after that many calls of its startup. -/
def startupLevels : Nat → Level × Level
  | 0 | 4 => (.high, .high)
  | 1 | 2 | 3 => (.low, .high)
  | _ => (.high, .low)

variable {lifecycle : Lifecycle W L P} {station : Station W L P} {past : List (Event L)} {said : Log}
  {pair : LinePair L} {levels : W → Level × Level}

/-- The calls of a startup by their places. -/
theorem startupCalls_split {settle : SettleWindow} {made left : List (StartupCall L)}
    {call : StartupCall L} (h : startupCalls settle pair = made ++ call :: left) :
    made.length + left.length = 4 ∧
      (made.length = 0 ∧ call = .set pair.reset .low ∨
        made.length = 1 ∧ call = .set pair.bootSelect .high ∨
        made.length = 2 ∧ call = .wait settle.least ∨
        made.length = 3 ∧ call = .set pair.reset .high ∨
        made.length = 4 ∧ call = .set pair.bootSelect .low) := by
  have hlength := congrArg List.length h
  simp only [startupCalls, List.length_cons, List.length_nil, List.length_append] at hlength
  have hcall : (startupCalls settle pair)[made.length]? = some call := by simp [h]
  refine ⟨by omega, ?_⟩
  obtain hplace | hplace | hplace | hplace | hplace : made.length = 0 ∨ made.length = 1 ∨
      made.length = 2 ∨ made.length = 3 ∨ made.length = 4 := by omega
  all_goals
    rw [hplace] at hcall
    obtain rfl := Option.some.inj hcall
    simp [hplace]

/-- The levels before a call of the startup, by its place. -/
theorem startupLevels_of_split {settle : SettleWindow} {made left : List (StartupCall L)}
    {call : StartupCall L} (h : startupCalls settle pair = made ++ call :: left) :
    startupLevels made.length =
      if made.isEmpty || left.isEmpty then (.high, .high) else (.low, .high) := by
  obtain ⟨hlength, -⟩ := startupCalls_split h
  rcases made with _ | ⟨first, made⟩
  · rfl
  rcases left with _ | ⟨last, left⟩
  · rw [List.length_nil, Nat.add_zero] at hlength
    rw [hlength]
    rfl
  · rw [List.length_cons, List.length_cons] at hlength
    obtain hplace | hplace | hplace : made.length = 0 ∨ made.length = 1 ∨ made.length = 2 := by
      omega
    all_goals
      rw [List.length_cons, hplace]
      rfl

/-- Each call of the startup that does not fail brings its levels about, and one that fails leaves
the levels as they are. -/
theorem Watched.startupCall (hlevels : lifecycle.Watched pair levels)
    {made left : List (StartupCall L)} {call : StartupCall L} {world : W}
    (hsplit : startupCalls lifecycle.target.settle pair = made ++ call :: left)
    (hworld : levels world = startupLevels made.length) :
    (call.action lifecycle.hardware).Yields world fun answer later =>
      levels later =
        startupLevels (match answer with
          | .ok _ => made.length + 1
          | .error _ => made.length) := by
  have hreset {level : Level} : (lifecycle.hardware.set pair.reset level).Yields world
      fun answer later => levels later = match answer with
        | .ok _ => (level, (levels world).2)
        | .error _ => levels world := by
    refine Action.yields_of_run fun answer hanswer => ?_
    cases answer with
    | ok _ => exact hlevels.set_reset hanswer
    | error failure => exact hlevels.reset_not_set hanswer
  have hbootSelect {level : Level} : (lifecycle.hardware.set pair.bootSelect level).Yields world
      fun answer later => levels later = match answer with
        | .ok _ => ((levels world).1, level)
        | .error _ => levels world := by
    refine Action.yields_of_run fun answer hanswer => ?_
    cases answer with
    | ok _ => exact hlevels.set_bootSelect hanswer
    | error failure => exact hlevels.bootSelect_not_set hanswer
  obtain ⟨-, ⟨hplace, rfl⟩ | ⟨hplace, rfl⟩ | ⟨hplace, rfl⟩ | ⟨hplace, rfl⟩ | ⟨hplace, rfl⟩⟩ :=
    startupCalls_split hsplit
  case inr.inr.inl =>
    refine Action.yields_of_run fun answer _ => ?_
    rw [StartupCall.action, hlevels.waited, hworld, hplace]
    cases answer <;> rfl
  all_goals
    rw [hplace] at hworld ⊢
  · refine hreset.mono fun answer later hl => ?_
    cases answer <;> simp [hl, hworld, startupLevels]
  · refine hbootSelect.mono fun answer later hl => ?_
    cases answer <;> simp [hl, hworld, startupLevels]
  · refine hreset.mono fun answer later hl => ?_
    cases answer <;> simp [hl, hworld, startupLevels]
  · refine hbootSelect.mono fun answer later hl => ?_
    cases answer <;> simp [hl, hworld, startupLevels]

/-- What an attachment that failed has left behind by now, if it had both lines and no other call
failed. -/
def Leaves (lifecycle : Lifecycle W L P) (failure : Failure) (events : List (Event L)) (world : W) :
    Prop :=
  (acquired events).length = 2 → (failures events).length ≤ 1 →
    ∃ pair, acquired events = [pair.reset, pair.bootSelect] ∧
      ∀ levels, lifecycle.Watched pair levels →
        lifecycle.LeftBehind pair failure (events ++ [.returned .attach (.failed failure)])
          (levels world)

theorem acquired_begun (made : List (StartupCall L)) :
    acquired (lifecycle.begun pair made) = [pair.reset, pair.bootSelect] := by
  have hmade : (made.map (StartupCall.event (.ok ()))).filterMap Event.acquired? = [] := by
    refine List.filterMap_eq_nil_iff.2 fun event hevent => ?_
    obtain ⟨call, -, rfl⟩ := List.mem_map.1 hevent
    exact call.acquired?_event _
  rw [acquired, begun, List.filterMap_append, hmade]
  rfl

theorem failures_begun (made : List (StartupCall L)) : failures (lifecycle.begun pair made) = [] := by
  have hmade : (made.map (StartupCall.event (.ok ()))).filterMap Event.failure? = [] :=
    List.filterMap_eq_nil_iff.2 (failure?_made made)
  rw [failures, begun, List.filterMap_append, hmade]
  rfl

/-- After a failure both lines are released with their levels as they are. -/
theorem leaves_release {α : Type} {cut : List (Event L)} {failure : Failure} (held : Level × Level)
    (hacquired : acquired cut = [pair.reset, pair.bootSelect]) (hfailed : failures cut ≠ [])
    (hheld : (failures cut).length ≤ 1 →
      (∀ levels, lifecycle.Watched pair levels → levels station.world = held) ∧
      lifecycle.LeftBehind pair failure
        (cut ++ [.release pair.reset (.ok ()), .release pair.bootSelect (.ok ()),
          .returned .attach (.failed failure)]) held) :
    lifecycle.Recounts (Scripted.release pair) station cut said fun _ later events _ =>
      ∀ failure', (.error failure : Except Failure α) = .error failure' →
        lifecycle.Leaves failure' events later.world := by
  refine recounts_release fun reset world log hreset => fun bootSelect world' log' hbootSelect => ?_
  rintro _ ⟨⟩ _ honce
  rw [failures_snoc, failures_snoc, List.length_append, List.length_append] at honce
  have hsome : 0 < (failures cut).length := List.length_pos_iff.2 hfailed
  obtain ⟨hworld, hleft⟩ := hheld (by omega)
  refine ⟨pair, by rw [acquired_snoc, acquired_snoc, hacquired]; rfl, fun levels hlevels => ?_⟩
  have hkept : levels world' = held := by
    have hfirst := hlevels.release_reset station.world
    have hsecond := hlevels.release_bootSelect world
    rw [hreset] at hfirst
    rw [hbootSelect] at hsecond
    exact hsecond.trans (hfirst.trans (hworld levels hlevels))
  have hnone : (Event.failure? (.release pair.reset reset)).toList.length = 0 ∧
      (Event.failure? (.release pair.bootSelect bootSelect)).toList.length = 0 := by omega
  cases reset with
  | error failure' => exact absurd hnone.1 (Nat.succ_ne_zero 0)
  | ok _ =>
    cases bootSelect with
    | error failure' => exact absurd hnone.2 (Nat.succ_ne_zero 0)
    | ok _ => simpa [hkept] using hleft

/-- If a call of the startup fails, the lines stay at the levels that the calls before it left. -/
theorem leaves_brokenOff {α : Type} {made left : List (StartupCall L)} {call : StartupCall L}
    {failure : Failure} (hsplit : startupCalls lifecycle.target.settle pair = made ++ call :: left)
    (hlevels : ∀ levels, lifecycle.Watched pair levels →
      levels station.world = startupLevels made.length) :
    lifecycle.Recounts (Scripted.release pair) station
      (lifecycle.begun pair made ++ [call.event (.error failure)]) said fun _ later events _ =>
        ∀ failure', (.error failure : Except Failure α) = .error failure' →
          lifecycle.Leaves failure' events later.world := by
  have hfailures : failures (lifecycle.begun pair made ++ [call.event (.error failure)]) =
      [failure] := by
    rw [failures_snoc, failures_begun, failure?_startupCall]
    rfl
  refine leaves_release _ ?_ (by simp [hfailures]) fun _ => ⟨hlevels, ?_⟩
  · rw [acquired_snoc, acquired_begun, call.acquired?_event]
    rfl
  · rw [startupLevels_of_split hsplit]
    exact .startUp hsplit

/-- What is known of a pair while its startup goes on. -/
theorem Watched.begun (hlevels : lifecycle.Watched pair levels) {world world' world'' : W}
    {log log' : Log}
    (hreset : lifecycle.hardware.acquire lifecycle.resetRequest world =
      ⟨.done pair.reset, world', log⟩)
    (hbootSelect : lifecycle.hardware.acquire lifecycle.bootSelectRequest world' =
      ⟨.done pair.bootSelect, world'', log'⟩) : levels world'' = startupLevels 0 := by
  have hboth := hlevels.acquired world
  rw [hreset, hbootSelect] at hboth
  exact hboth rfl rfl

/-- If the attribute could not be published, the coprocessor is forced into reset first. -/
theorem leaves_tearDown {α : Type} {handle : Handle} {name : String} {failure : Failure}
    (hholding : station.controllers handle = ⟨name, .holding pair⟩) :
    lifecycle.Recounts (Scripted.tearDown handle) station
      (lifecycle.broughtUp pair ++ [.publish (.error failure)]) said fun _ later events _ =>
        ∀ failure', (.error failure : Except Failure α) = .error failure' →
          lifecycle.Leaves failure' events later.world := by
  have hacquired : acquired (lifecycle.broughtUp pair ++ [.publish (.error failure)]) =
      [pair.reset, pair.bootSelect] := by
    rw [acquired_snoc]
    exact (List.append_nil _).trans (acquired_begun _)
  have hfailures : failures (lifecycle.broughtUp pair ++ [.publish (.error failure)]) =
      [failure] := by
    rw [failures_snoc]
    exact congrArg (· ++ [failure]) (failures_begun _)
  refine recounts_tearDown hholding (recounts_drive fun reset world log hreset => ?_)
  cases reset with
  | error refusal =>
    refine leaves_release (.low, .high) ?_ ?_ fun honce => ?_
    · rw [acquired_snoc, hacquired]
      rfl
    · rw [failures_snoc, hfailures]
      exact List.cons_ne_nil _ _
    · rw [failures_snoc, hfailures] at honce
      exact absurd honce (by simp [Event.failure?, Failure.of?])
  | ok _ =>
    intro bootSelect world' log' hbootSelect
    refine leaves_release (.low, .high) ?_ ?_ fun honce => ?_
    · rw [acquired_snoc, acquired_snoc, hacquired]
      rfl
    · rw [failures_snoc, failures_snoc, hfailures]
      exact List.cons_ne_nil _ _
    · rw [failures_snoc, failures_snoc, hfailures] at honce
      cases bootSelect with
      | error refusal => exact absurd honce (by simp [Event.failure?, Failure.of?])
      | ok _ =>
        refine ⟨fun levels hlevels => ?_, ?_⟩
        · have hfirst := hlevels.set_reset (congrArg Run.outcome hreset)
          have hsecond := hlevels.set_bootSelect (congrArg Run.outcome hbootSelect)
          rw [hreset] at hfirst
          rw [hbootSelect, hfirst] at hsecond
          exact hsecond
        · rw [List.append_assoc _ [Event.set ..]]
          exact .publish

theorem leaves_bringUp :
    lifecycle.Recounts (Scripted.bringUp lifecycle) station [.called .attach] said
      fun result later events _ =>
        ∀ failure, result = .error failure → lifecycle.Leaves failure events later.world := by
  refine recounts_bind (recounts_bind (recounts_ask (Action.reports_on ?_)))
  intro reset world log hreset
  cases reset with
  | error failure => exact fun _ _ hacquired => absurd (show 0 = 2 from hacquired) (by decide)
  | ok reset =>
    refine recounts_bind (recounts_attempt (recounts_ask (Action.reports_on ?_)))
    intro bootSelect world' log' hbootSelect
    cases bootSelect with
    | error failure =>
      refine recounts_cleanUp (recounts_ask (Action.reports_on ?_))
      exact Action.reports_of_forall fun _ _ _ _ _ hacquired =>
        absurd (show 1 = 2 from hacquired) (by decide)
    | ok bootSelect =>
      refine recounts_finish ?_
      let pair : LinePair L := ⟨reset, bootSelect⟩
      refine recounts_bind (recounts_attempt (recounts_startUp
        (fun made world => ∀ levels, lifecycle.Watched pair levels →
          levels world = startupLevels made.length)
        (fun levels hlevels => hlevels.begun hreset hbootSelect)
        (fun made call left world hsplit hworld => ?_) fun world more hworld => ?_))
      · intro answer later log hcall
        have hlater := fun levels (hlevels : lifecycle.Watched pair levels) =>
          (hlevels.startupCall hsplit (hworld levels hlevels)).reports answer later log hcall
        cases answer with
        | ok _ => simpa using hlater
        | error failure => exact fun more => recounts_cleanUp (leaves_brokenOff hsplit hlater)
      · exact recounts_announce (fun _ _ => by rintro _ ⟨⟩)
          fun failure later more' hholding => leaves_tearDown hholding

/-- An attachment that had both lines and failed because one call did has released them. They hold
the coprocessor in reset, unless the call was the first of the startup or its last. -/
theorem attach_leaves (hcalm : lifecycle.hardware.Calm) {failure : Failure}
    (hphase : station.phase = .unattached)
    (hfailed : (lifecycle.perform .attach station).outcome = .failed failure)
    (hacquired : (acquired (lifecycle.record .attach (station, [])).world.2).length = 2)
    (honce : (failures (lifecycle.record .attach (station, [])).world.2).length = 1) :
    ∃ pair, acquired (lifecycle.record .attach (station, [])).world.2 =
        [pair.reset, pair.bootSelect] ∧
      ∀ levels, lifecycle.Watched pair levels →
        lifecycle.LeftBehind pair failure (lifecycle.record .attach (station, [])).world.2
          (levels (lifecycle.perform .attach station).world.world) := by
  have hscript : lifecycle.Recounts (lifecycle.script .attach) station [.called .attach] []
      fun result later events _ => ∀ failure, result = .error failure →
        lifecycle.Leaves failure events later.world := by
    have hbooks : station.books.phase = .unattached := hphase
    refine recounts_bind (recounts_look ?_)
    simp only [hbooks, ne_eq, not_true_eq_false, if_false]
    refine recounts_bind (recounts_note (recounts_bind (recounts_setPhase ?_)))
    refine recounts_bind (recounts_attempt (leaves_bringUp.mono ?_))
    intro result later events log hl
    cases result with
    | ok handle =>
      refine recounts_bind (recounts_setCurrent (recounts_bind (recounts_setPhase ?_)))
      exact recounts_bind (recounts_note (recounts_finish (recounts_finish nofun)))
    | error failure =>
      refine recounts_bind (recounts_note (recounts_bind (recounts_setPhase (recounts_finish ?_))))
      rintro _ ⟨⟩
      exact hl failure rfl
  have hresult : (lifecycle.record .attach (station, [])).outcome = .ofExcept (.error failure) :=
    (record_outcome hcalm .attach station []).trans hfailed
  obtain ⟨events, hevents, hleaves⟩ := hscript.record hresult
  rw [hevents, acquired_snoc] at hacquired
  rw [hevents, failures_snoc] at honce
  obtain ⟨pair, hpair, hlevels⟩ := hleaves failure rfl (by simpa [Event.acquired?] using hacquired)
    (by simpa [Event.failure?] using Nat.le_of_eq honce)
  rw [hevents, acquired_snoc, ← record_world hcalm .attach station []]
  exact ⟨pair, (List.append_nil _).trans hpair, hlevels⟩

/-- The levels of lines in memory can be told whatever faults are planned. -/
theorem watched_dryRun (plan : List Fault) :
    (dryRun plan).Watched ⟨⟨"reset-line", .activeHigh⟩, ⟨"boot-select-line", .activeHigh⟩⟩
      fun world =>
        world.1.levels ⟨⟨"reset-line", .activeHigh⟩, ⟨"boot-select-line", .activeHigh⟩⟩ := by
  have hnotSet {line : MemoryLine} {level : Level} {failure : Failure}
      {world : MemoryBank × CallCounts}
      (h : ((dryRun plan).hardware.set line level world).outcome = .failed failure) :
      ((dryRun plan).hardware.set line level world).world.1 = world.1 := by
    obtain ⟨later, ⟨fault, -, hrun⟩ | hrun⟩ := Fault.guarding_cases plan Lens.second line.name
      .set ((memoryHardware.set line level).on Lens.first) world
    · exact congrArg (fun run => run.world.1) hrun
    · rw [show (dryRun plan).hardware.set line level world = _ from hrun] at h ⊢
      exact MemoryLine.of_set_failed h
  exact
    { (shown_memory (by decide)).faulty plan with
      acquired := by
        intro world hreset hbootSelect
        have hfirst := MemoryLine.levelAt_acquire hreset "reset-line"
        have hsecond := MemoryLine.levelAt_acquire hbootSelect
        exact Prod.ext ((hsecond "reset-line").trans (hfirst.trans (if_pos rfl)))
          ((hsecond "boot-select-line").trans (if_pos rfl))
      reset_not_set := fun h => congrArg _ (hnotSet h)
      bootSelect_not_set := fun h => congrArg _ (hnotSet h)
      waited := fun _ _ => rfl }

/-- The last call of the startup fails, and the lines are released with the coprocessor running. -/
theorem attach_leaves_dryRun :
    let faulty := dryRun [⟨"boot-select-line", .set, 2, false⟩]
    let pair : LinePair MemoryLine :=
      ⟨⟨"reset-line", .activeHigh⟩, ⟨"boot-select-line", .activeHigh⟩⟩
    ∃ failure, (faulty.perform .attach dryStation).outcome = .failed failure ∧
      faulty.LeftBehind pair failure (faulty.record .attach (dryStation, [])).world.2
        ((faulty.perform .attach dryStation).world.world.1.levels pair) ∧
      (faulty.perform .attach dryStation).world.world.1.levels pair = (.high, .high) := by
  intro faulty pair
  have hkind : (match (faulty.perform .attach dryStation).outcome with
      | .failed _ => true
      | _ => false) = true := by decide +kernel
  rcases hfailed : (faulty.perform .attach dryStation).outcome with _ | failure | _
  case done => rw [hfailed] at hkind; cases hkind
  case crashed => rw [hfailed] at hkind; cases hkind
  have hacquired : acquired (faulty.record .attach (dryStation, [])).world.2 =
      [pair.reset, pair.bootSelect] := by decide +kernel
  have hcalm : faulty.hardware.Calm := dryRun_calm (by simp)
  obtain ⟨pair', hpair, hleft⟩ := attach_leaves hcalm (show dryStation.phase = .unattached from rfl)
    hfailed (by rw [hacquired]; rfl) (by decide +kernel)
  rw [hacquired] at hpair
  obtain rfl : pair = pair' := by
    cases pair'
    cases hpair
    rfl
  exact ⟨failure, rfl, hleft (fun world => world.1.levels pair) (watched_dryRun _),
    by decide +kernel⟩

end Lifecycle

end CoprocReset
