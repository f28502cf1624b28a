import CoprocReset.Line.Memory
import CoprocReset.Proofs.Line.Driven

/-!
# Lines in memory

The bank answers every call with a value or a failure (`memoryHardware_calm`). The levels of two
lines of different names can be told from the bank (`shown_memory`), and as long as it knows the
names, reading and setting them does not fail (`reliable_memory`).
-/

namespace CoprocReset

theorem memoryHardware_calm : memoryHardware.Calm where
  acquire request := by
    refine Action.calm_world.bind fun bank => ?_
    split
    · exact Action.calm_fail _
    · split
      · exact Action.calm_fail _
      · exact (Action.calm_update _).bind fun _ => Action.calm_pure _
  get line := by
    refine Action.calm_world.bind fun bank => ?_
    split
    · exact Action.calm_pure _
    · exact Action.calm_fail _
  set line level := by
    refine Action.calm_world.bind fun bank => ?_
    split
    · exact Action.calm_update _
    · exact Action.calm_fail _
  release line := by
    refine Action.calm_world.bind fun bank => ?_
    split
    · split
      · exact Action.calm_update _
      · exact Action.calm_fail _
    · exact Action.calm_fail _
  wait _ := Action.calm_pure ()

namespace MemoryBank

/-- The level of the line of a name. A name that was never acquired is said to be low. -/
def levelAt (bank : MemoryBank) (name : String) : Level :=
  ((bank.entryAt name).map MemoryEntry.level).getD .low

/-- The levels of a pair of lines. -/
def levels (pair : LinePair MemoryLine) (bank : MemoryBank) : Level × Level :=
  (bank.levelAt pair.reset.name, bank.levelAt pair.bootSelect.name)

/-- The bank knows the lines of a pair. -/
def Knows (pair : LinePair MemoryLine) (bank : MemoryBank) : Prop :=
  (bank.entryAt pair.reset.name).isSome ∧ (bank.entryAt pair.bootSelect.name).isSome

theorem levelAt_put (bank : MemoryBank) (name other : String) (entry : MemoryEntry) :
    (bank.put name entry).levelAt other =
      if other = name then entry.level else bank.levelAt other := by
  rw [levelAt, entryAt_put]
  split <;> rfl

/-- The levels of a pair that the bank knows are the levels in its entries. -/
theorem knows_levels_iff {bank : MemoryBank} {pair : LinePair MemoryLine} {levels : Level × Level} :
    bank.Knows pair ∧ bank.levels pair = levels ↔
      (bank.entryAt pair.reset.name).map MemoryEntry.level = some levels.1 ∧
        (bank.entryAt pair.bootSelect.name).map MemoryEntry.level = some levels.2 := by
  constructor
  · rintro ⟨⟨hreset, hbootSelect⟩, hlevels⟩
    obtain ⟨reset, hreset⟩ := Option.isSome_iff_exists.1 hreset
    obtain ⟨bootSelect, hbootSelect⟩ := Option.isSome_iff_exists.1 hbootSelect
    simp [← hlevels, MemoryBank.levels, levelAt, hreset, hbootSelect]
  · rintro ⟨hreset, hbootSelect⟩
    refine ⟨⟨?_, ?_⟩, ?_⟩
    · rw [← Option.isSome_map, hreset]; rfl
    · rw [← Option.isSome_map, hbootSelect]; rfl
    · rw [MemoryBank.levels, levelAt, levelAt, hreset, hbootSelect]
      rfl

/-- An entry in the journal is no change of the lines. -/
theorem entryAt_journal (bank : MemoryBank) (journal : List (String × Level)) (name : String) :
    ({ bank with journal } : MemoryBank).entryAt name = bank.entryAt name := rfl

theorem levelAt_journal (bank : MemoryBank) (journal : List (String × Level)) (name : String) :
    ({ bank with journal } : MemoryBank).levelAt name = bank.levelAt name := rfl

end MemoryBank

namespace MemoryLine

variable {line : MemoryLine} {bank : MemoryBank} {entry : MemoryEntry}

theorem get_eq (h : bank.entryAt line.name = some entry) :
    line.get bank = ⟨.done (bank.levelAt line.name), bank, []⟩ := by
  simp [get, Action.bind_apply, Action.andThen, Action.world, h, MemoryBank.levelAt]

theorem set_eq (h : bank.entryAt line.name = some entry) (level : Level) :
    line.set level bank =
      ⟨.done (),
        { bank.put line.name { entry with level } with
          journal := bank.journal ++ [(line.name, level)] }, []⟩ := by
  simp [set, Action.bind_apply, Action.andThen, Action.world, h, Action.update]

theorem set_unknown (h : bank.entryAt line.name = none) (level : Level) :
    line.set level bank = ⟨.failed line.notHeld, bank, []⟩ := by
  simp [set, Action.bind_apply, Action.andThen, Action.world, h, Action.fail]

/-- A known name stays known. -/
theorem isSome_entryAt_set (level : Level) (name : String) (h : (bank.entryAt name).isSome) :
    ((line.set level bank).world.entryAt name).isSome := by
  rcases hentry : bank.entryAt line.name with _ | entry
  · rwa [set_unknown hentry]
  · rw [set_eq hentry, MemoryBank.entryAt_journal, MemoryBank.entryAt_put]
    split
    · rfl
    · exact h

/-- A line that was set is at its level, and every other name has the level that it had. -/
theorem levelAt_set {level : Level} (h : (line.set level bank).outcome = .done ()) (name : String) :
    (line.set level bank).world.levelAt name =
      if name = line.name then level else bank.levelAt name := by
  rcases hentry : bank.entryAt line.name with _ | entry
  · simp [set_unknown hentry] at h
  · rw [set_eq hentry, MemoryBank.levelAt_journal, MemoryBank.levelAt_put]

/-- A set that fails leaves the bank alone. -/
theorem of_set_failed {level : Level} {failure : Failure}
    (h : (line.set level bank).outcome = .failed failure) : (line.set level bank).world = bank := by
  rcases hentry : bank.entryAt line.name with _ | entry
  · rw [set_unknown hentry]
  · rw [set_eq hentry] at h
    cases h

/-- A release leaves the levels alone. -/
theorem levelAt_release (name : String) :
    (line.release bank).world.levelAt name = bank.levelAt name := by
  rcases hentry : bank.entryAt line.name with _ | entry
  · simp [release, Action.bind_apply, Action.andThen, Action.world, hentry, Action.fail]
  · by_cases hheld : entry.held
    · simp only [release, Action.bind_apply, Action.andThen, Action.world, hentry, hheld, if_true,
        Action.update, MemoryBank.levelAt_put]
      split
      · next hname => simp [MemoryBank.levelAt, hname, hentry]
      · rfl
    · simp [release, Action.bind_apply, Action.andThen, Action.world, hentry, hheld, Action.fail]

end MemoryLine

variable {pair : LinePair MemoryLine}

theorem shown_memory (hne : pair.reset.name ≠ pair.bootSelect.name) :
    pair.Shown memoryHardware (MemoryBank.levels pair) where
  set_reset h := by
    simp [MemoryBank.levels, memoryHardware, MemoryLine.levelAt_set h, hne.symm]
  set_bootSelect h := by
    simp [MemoryBank.levels, memoryHardware, MemoryLine.levelAt_set h, hne]
  release_reset bank := by
    simp [MemoryBank.levels, memoryHardware, MemoryLine.levelAt_release]
  release_bootSelect bank := by
    simp [MemoryBank.levels, memoryHardware, MemoryLine.levelAt_release]

theorem reliable_memory (hne : pair.reset.name ≠ pair.bootSelect.name) :
    pair.Reliable memoryHardware (MemoryBank.levels pair) (MemoryBank.Knows pair) := by
  have hget {line : MemoryLine} {bank : MemoryBank} (h : (bank.entryAt line.name).isSome) :
      memoryHardware.get line bank = ⟨.done (bank.levelAt line.name), bank, []⟩ := by
    obtain ⟨entry, hentry⟩ := Option.isSome_iff_exists.1 h
    exact MemoryLine.get_eq hentry
  have hset {line : MemoryLine} {bank : MemoryBank} (level : Level)
      (hbank : bank.Knows pair) (h : (bank.entryAt line.name).isSome) :
      (memoryHardware.set line level bank).outcome = .done () ∧
        (memoryHardware.set line level bank).world.Knows pair := by
    obtain ⟨entry, hentry⟩ := Option.isSome_iff_exists.1 h
    exact ⟨congrArg Run.outcome (MemoryLine.set_eq hentry level),
      MemoryLine.isSome_entryAt_set level _ hbank.1, MemoryLine.isSome_entryAt_set level _ hbank.2⟩
  have hshown := shown_memory hne
  constructor
  · intro bank h
    rw [hget h.1]
    exact ⟨rfl, h, rfl⟩
  · intro bank h
    rw [hget h.2]
    exact ⟨rfl, h, rfl⟩
  · intro bank h level
    obtain ⟨hdone, hknows⟩ := hset level h h.1
    exact ⟨hdone, hknows, hshown.set_reset hdone⟩
  · intro bank h level
    obtain ⟨hdone, hknows⟩ := hset level h h.2
    exact ⟨hdone, hknows, hshown.set_bootSelect hdone⟩

/-! ## Lines that were acquired and driven -/

theorem memoryHardware_still : memoryHardware.Still := by
  intro line bank
  change (MemoryLine.get line bank).world = bank
  rcases hentry : bank.entryAt line.name with _ | entry
  · simp [MemoryLine.get, Action.bind_apply, Action.andThen, Action.world, hentry, Action.fail]
  · rw [MemoryLine.get_eq hentry]

/-- A line that was set is known. -/
theorem MemoryLine.isSome_of_set {line : MemoryLine} {level : Level} {bank : MemoryBank} {u : Unit}
    (h : (line.set level bank).outcome = .done u) : (bank.entryAt line.name).isSome := by
  rcases hentry : bank.entryAt line.name with _ | entry
  · simp [MemoryLine.set_unknown hentry] at h
  · rfl

theorem settles_memory (hne : pair.reset.name ≠ pair.bootSelect.name) :
    pair.Settles memoryHardware (MemoryBank.levels pair) (MemoryBank.Knows pair) where
  reliable := reliable_memory hne
  drive {bank command} hdone := by
    refine ⟨?_, (shown_memory hne).drive hdone⟩
    rw [LinePair.exec_drive] at hdone ⊢
    rcases hreset : memoryHardware.set pair.reset command.resetLevel bank
      with ⟨_ | failure | message, middle, log⟩
    case failed => rw [Action.bind_failed hreset] at hdone; cases hdone
    case crashed => rw [Action.bind_crashed hreset] at hdone; cases hdone
    rw [Action.bind_done hreset] at hdone ⊢
    have hfirst : (bank.entryAt pair.reset.name).isSome :=
      MemoryLine.isSome_of_set (congrArg Run.outcome hreset)
    have hset : pair.reset.set command.resetLevel bank = _ := hreset
    have hmiddle : (middle.entryAt pair.reset.name).isSome := by
      have hkept : ((pair.reset.set command.resetLevel bank).world.entryAt
        pair.reset.name).isSome := MemoryLine.isSome_entryAt_set _ _ hfirst
      rwa [hset] at hkept
    exact ⟨MemoryLine.isSome_entryAt_set _ _ hmiddle,
      MemoryLine.isSome_entryAt_set _ _ (MemoryLine.isSome_of_set hdone)⟩

namespace MemoryLine

variable {request : LineRequest} {bank : MemoryBank} {name : String}

/-- A name that is held by nobody, and is not to be refused, is handed out at the level that was asked
for. -/
theorem acquire_eq (hrefusal : bank.refusals.lookup request.name = none)
    (hfree : (bank.entryAt request.name).any (·.held) = false) :
    acquire request bank =
      ⟨.done ⟨request.name, request.polarity⟩,
        bank.put request.name ⟨request.initial, request.polarity, true⟩, []⟩ := by
  simp only [acquire, Action.bind_apply, Action.andThen, Action.world, hrefusal, hfree,
    Bool.false_eq_true, if_false]
  rfl

/-- Otherwise it is refused, and nothing changes. -/
theorem acquire_cases (request : LineRequest) (bank : MemoryBank) :
    (bank.entryAt request.name).any (·.held) = false ∧
        acquire request bank =
          ⟨.done ⟨request.name, request.polarity⟩,
            bank.put request.name ⟨request.initial, request.polarity, true⟩, []⟩ ∨
      ∃ failure, acquire request bank = ⟨.failed failure, bank, []⟩ := by
  cases hrefusal : bank.refusals.lookup request.name with
  | some code =>
    refine .inr ⟨.acquisition request.name code, ?_⟩
    simp only [acquire, Action.bind_apply, Action.andThen, Action.world, hrefusal]
    rfl
  | none =>
    cases hheld : (bank.entryAt request.name).any (·.held) with
    | false => exact .inl ⟨rfl, acquire_eq hrefusal hheld⟩
    | true =>
      refine .inr ⟨.acquisition request.name .busy, ?_⟩
      simp only [acquire, Action.bind_apply, Action.andThen, Action.world, hrefusal, hheld, if_true]
      rfl

/-- What is handed out has the name that was asked for, nobody had it before, and it is held now. -/
theorem of_acquire {line : MemoryLine} (h : (acquire request bank).outcome = .done line) :
    line = ⟨request.name, request.polarity⟩ ∧ (bank.entryAt request.name).any (·.held) = false ∧
      ((acquire request bank).world.entryAt request.name).any (·.held) := by
  obtain ⟨hfree, hrun⟩ | ⟨failure, hrun⟩ := acquire_cases request bank
  · rw [hrun] at h ⊢
    cases h
    refine ⟨rfl, hfree, ?_⟩
    rw [MemoryBank.entryAt_put, if_pos rfl]
    rfl
  · rw [hrun] at h
    cases h

/-- A line that is handed out is at the level that was asked for. -/
theorem levelAt_acquire {line : MemoryLine} (h : (acquire request bank).outcome = .done line)
    (name : String) :
    (acquire request bank).world.levelAt name =
      if name = request.name then request.initial else bank.levelAt name := by
  obtain ⟨-, hrun⟩ | ⟨failure, hrun⟩ := acquire_cases request bank
  · rw [hrun, MemoryBank.levelAt_put]
  · rw [hrun] at h
    cases h

end MemoryLine

end CoprocReset
