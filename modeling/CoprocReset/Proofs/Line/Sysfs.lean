import CoprocReset.Line.Sysfs
import CoprocReset.Proofs.Files.Access
import CoprocReset.Proofs.Line.Driven

/-!
# Lines behind files

A line behind files is at a level if its file `value` has the digit of that level. Two lines of
different numbers have files apart (`apart_value`), so each keeps its level while the other is
driven: once both were driven they are a reliable pair (`settles_sysfs`), whatever their files held
before. Two lines of one number have one file, and after any command they tell no clear state
(`tells_of_same_value`).

`Exported` says what the directory of an exported line has in it. There an acquisition is never
refused (`acquire_exported`). Anywhere else calls may fail, but none crashes (`sysfsHardware_calm`).
-/

namespace CoprocReset

open Files (FileTree Path read_holdsText write_cases write_holdsFile)

theorem sysfsHardware_still (gpioClass : Path) : (sysfsHardware gpioClass).Still := by
  intro line tree
  have hread : (Files.read line.value tree).world = tree := Files.read_world _ _
  change (SysfsLine.get line tree).world = tree
  rcases hrun : Files.read line.value tree with ⟨text | failure | message, later, log⟩ <;>
    obtain rfl : later = tree := by simpa [hrun] using hread
  · rw [SysfsLine.get, Action.bind_done hrun]
    cases SysfsLine.readLevel text <;> rfl
  · rw [SysfsLine.get, Action.bind_failed hrun]
  · rw [SysfsLine.get, Action.bind_crashed hrun]

namespace SysfsLine

variable {line other : SysfsLine} {gpioClass : Path} {gpio : Nat} {request : LineRequest}
  {tree : FileTree} {level : Level}

/-! ## Names -/

theorem plainName_gpio (gpio : Nat) : Path.PlainName ("gpio" ++ toString gpio) := by
  have htext : ("gpio" ++ toString gpio).toList =
      'g' :: 'p' :: 'i' :: 'o' :: Nat.toDigits 10 gpio := by
    simp [String.toList_append]
  have hne (name : String) (hhead : name.toList.head? ≠ some 'g') :
      "gpio" ++ toString gpio ≠ name := by
    rintro rfl
    simp at hhead
  refine ⟨hne _ (by decide), hne _ (by decide), hne _ (by decide), fun hslash => ?_⟩
  rw [htext] at hslash
  have hdigit : '/' ∈ Nat.toDigits 10 gpio := by simpa using hslash
  exact absurd (Nat.isDigit_of_mem_toDigits (by decide) (by decide) hdigit) (by decide)

theorem gpioName_inj {gpio other : Nat} (h : "gpio" ++ toString gpio = "gpio" ++ toString other) :
    gpio = other := by
  have hdigits : Nat.toDigits 10 gpio = Nat.toDigits 10 other := by
    simpa [String.toList_append, Nat.toString_eq_ofList_toDigits] using congrArg String.toList h
  simpa using congrArg (Nat.ofDigitChars 10 · 0) hdigits

theorem plainName_value : Path.PlainName "value" := by constructor <;> decide

theorem plainName_unexport : Path.PlainName "unexport" := by constructor <;> decide

/-- The file `value` of the line of a number. -/
def valuePath (gpioClass : Path) (gpio : Nat) : Path := (directory gpioClass gpio).join "value"

/-- The line of a number. -/
def ofGpio (gpioClass : Path) (name : String) (gpio : Nat) (polarity : Polarity) : SysfsLine where
  name := name
  gpio := gpio
  polarity := polarity
  value := valuePath gpioClass gpio
  unexport := gpioClass.join "unexport"

theorem value_ofGpio (gpioClass : Path) (name : String) (gpio : Nat) (polarity : Polarity) :
    (ofGpio gpioClass name gpio polarity).value = valuePath gpioClass gpio := by
  rw [ofGpio]

theorem apart_value (gpioClass gpioClass' : Path) {gpio other : Nat} (h : gpio ≠ other) :
    (valuePath gpioClass gpio).Apart (valuePath gpioClass' other) :=
  Path.apart_join_join _ _ (plainName_gpio gpio) (plainName_gpio other) plainName_value
    plainName_value fun heq => h (gpioName_inj heq)

theorem apart_unexport (gpioClass gpioClass' : Path) (gpio : Nat) :
    (gpioClass.join "unexport").Apart (valuePath gpioClass' gpio) :=
  Path.apart_join gpioClass (directory gpioClass' gpio) plainName_unexport plainName_value
    (by decide)

/-! ## Levels -/

theorem readLevel_digit (level : Level) : readLevel level.digit = some level := by
  cases level <;> decide

theorem digit_ne_empty (level : Level) : level.digit ≠ "" := by
  cases level <;> decide

/-- The file of the line has the digit of the level. -/
def IsAt (line : SysfsLine) (level : Level) (tree : FileTree) : Prop :=
  tree.HoldsText line.value level.digit

/-- The level of the line. A file that has no digit of a level is said to be low. -/
def levelIn (line : SysfsLine) (tree : FileTree) : Level :=
  ((tree.read line.value).toOption.bind readLevel).getD .low

theorem isAt_ofGpio (gpioClass : Path) (name : String) (gpio : Nat) (polarity : Polarity) :
    (ofGpio gpioClass name gpio polarity).IsAt level tree ↔
      tree.HoldsText (valuePath gpioClass gpio) level.digit := by
  rw [IsAt, value_ofGpio]

theorem IsAt.levelIn_eq (h : line.IsAt level tree) : line.levelIn tree = level := by
  simp [levelIn, FileTree.HoldsText.read_eq h, Except.toOption, readLevel_digit]

theorem IsAt.get_eq (h : line.IsAt level tree) : line.get tree = ⟨.done level, tree, []⟩ := by
  rw [get, Action.bind_done (read_holdsText h), readLevel_digit]
  rfl

/-- A line with a file is set to any level, and no line with another file is touched. -/
theorem set_eq (h : tree.HoldsFile line.value) (level : Level) :
    ∃ later, line.set level tree = ⟨.done (), later, []⟩ ∧ line.IsAt level later ∧
      tree.Preserves later ∧
      ∀ (other : SysfsLine) level', line.value.Apart other.value → other.IsAt level' tree →
        other.IsAt level' later :=
  let ⟨later, hrun, htext, hfiles, hothers⟩ := write_holdsFile h level.digit
  ⟨later, hrun, htext, hfiles, fun _ _ hapart hat => hothers _ _ hapart hat⟩

/-- A set that was not refused found a file. -/
theorem holdsFile_of_set {u : Unit} (h : (line.set level tree).outcome = .done u) :
    tree.HoldsFile line.value := by
  obtain hfile | ⟨failure, hrun⟩ := write_cases tree line.value (digit_ne_empty level)
  · exact hfile
  · rw [SysfsLine.set, hrun] at h
    cases h

end SysfsLine

variable {pair : LinePair SysfsLine} {gpioClass : Path}

namespace LinePair

/-- The levels of the pair. -/
def fileLevels (pair : LinePair SysfsLine) (tree : FileTree) : Level × Level :=
  (pair.reset.levelIn tree, pair.bootSelect.levelIn tree)

/-- Both files have the digit of a level. -/
def HasLevels (pair : LinePair SysfsLine) (tree : FileTree) : Prop :=
  ∃ reset bootSelect, pair.reset.IsAt reset tree ∧ pair.bootSelect.IsAt bootSelect tree

theorem fileLevels_eq {tree : FileTree} {reset bootSelect : Level}
    (hreset : pair.reset.IsAt reset tree) (hbootSelect : pair.bootSelect.IsAt bootSelect tree) :
    pair.fileLevels tree = (reset, bootSelect) := by
  rw [fileLevels, hreset.levelIn_eq, hbootSelect.levelIn_eq]

end LinePair

theorem reliable_sysfs (h : pair.reset.value.Apart pair.bootSelect.value) :
    pair.Reliable (sysfsHardware gpioClass) pair.fileLevels pair.HasLevels where
  get_reset := by
    rintro tree ⟨reset, bootSelect, hreset, hbootSelect⟩
    have hrun : (sysfsHardware gpioClass).get pair.reset tree = ⟨.done reset, tree, []⟩ :=
      hreset.get_eq
    rw [hrun, LinePair.fileLevels_eq hreset hbootSelect]
    exact ⟨rfl, ⟨reset, bootSelect, hreset, hbootSelect⟩, rfl⟩
  get_bootSelect := by
    rintro tree ⟨reset, bootSelect, hreset, hbootSelect⟩
    have hrun : (sysfsHardware gpioClass).get pair.bootSelect tree =
        ⟨.done bootSelect, tree, []⟩ := hbootSelect.get_eq
    rw [hrun, LinePair.fileLevels_eq hreset hbootSelect]
    exact ⟨rfl, ⟨reset, bootSelect, hreset, hbootSelect⟩, rfl⟩
  set_reset := by
    rintro tree ⟨reset, bootSelect, hreset, hbootSelect⟩ level
    obtain ⟨later, hrun, hlevel, -, hothers⟩ :=
      SysfsLine.set_eq (FileTree.HoldsText.holdsFile hreset) level
    have hkept := hothers _ _ h hbootSelect
    rw [show (sysfsHardware gpioClass).set pair.reset level tree = _ from hrun,
      LinePair.fileLevels_eq hreset hbootSelect, LinePair.fileLevels_eq hlevel hkept]
    exact ⟨rfl, ⟨level, bootSelect, hlevel, hkept⟩, rfl⟩
  set_bootSelect := by
    rintro tree ⟨reset, bootSelect, hreset, hbootSelect⟩ level
    obtain ⟨later, hrun, hlevel, -, hothers⟩ :=
      SysfsLine.set_eq (FileTree.HoldsText.holdsFile hbootSelect) level
    have hkept := hothers _ _ h.symm hreset
    rw [show (sysfsHardware gpioClass).set pair.bootSelect level tree = _ from hrun,
      LinePair.fileLevels_eq hreset hbootSelect, LinePair.fileLevels_eq hkept hlevel]
    exact ⟨rfl, ⟨reset, level, hkept, hlevel⟩, rfl⟩

/-- A command that was carried out found both files, and left the boot-select line at its level. -/
theorem isAt_of_drive {command : Command} {tree : FileTree}
    (hdone : ((sysfsHardware gpioClass).exec (pair.drive command) tree).outcome = .done ()) :
    let later := ((sysfsHardware gpioClass).exec (pair.drive command) tree).world
    pair.bootSelect.IsAt command.bootSelectLevel later ∧
      (pair.reset.value.Apart pair.bootSelect.value →
        pair.reset.IsAt command.resetLevel later) := by
  rw [LinePair.exec_drive] at hdone ⊢
  rcases hreset : (sysfsHardware gpioClass).set pair.reset command.resetLevel tree
    with ⟨_ | failure | message, middle, log⟩
  case failed => rw [Action.bind_failed hreset] at hdone; cases hdone
  case crashed => rw [Action.bind_crashed hreset] at hdone; cases hdone
  rw [Action.bind_done hreset] at hdone ⊢
  obtain ⟨_, hrun, hlevel, -, -⟩ :=
    SysfsLine.set_eq (SysfsLine.holdsFile_of_set (congrArg Run.outcome hreset)) command.resetLevel
  cases hreset.symm.trans hrun
  obtain ⟨later, hrun', hlevel', -, hothers⟩ :=
    SysfsLine.set_eq (SysfsLine.holdsFile_of_set hdone) command.bootSelectLevel
  rw [show (sysfsHardware gpioClass).set pair.bootSelect command.bootSelectLevel middle = _
    from hrun']
  exact ⟨hlevel', fun hapart => hothers _ _ hapart.symm hlevel⟩

theorem settles_sysfs (h : pair.reset.value.Apart pair.bootSelect.value) :
    pair.Settles (sysfsHardware gpioClass) pair.fileLevels pair.HasLevels where
  reliable := reliable_sysfs h
  drive hdone := by
    obtain ⟨hbootSelect, hreset⟩ := isAt_of_drive hdone
    exact ⟨⟨_, _, hreset h, hbootSelect⟩, LinePair.fileLevels_eq (hreset h) hbootSelect⟩

/-- Lines of two numbers are two lines. -/
theorem settles_ofGpio {gpio gpio' : Nat} (h : gpio ≠ gpio') (name name' : String)
    (polarity polarity' : Polarity) :
    let pair : LinePair SysfsLine :=
      ⟨.ofGpio gpioClass name gpio polarity, .ofGpio gpioClass name' gpio' polarity'⟩
    pair.Settles (sysfsHardware gpioClass) pair.fileLevels pair.HasLevels := by
  refine settles_sysfs ?_
  rw [SysfsLine.value_ofGpio, SysfsLine.value_ofGpio]
  exact SysfsLine.apart_value gpioClass gpioClass h

/-- Two lines with one file are at one level. -/
theorem tells_of_same_value (h : pair.reset.value = pair.bootSelect.value) {command : Command}
    {tree : FileTree}
    (hdone : ((sysfsHardware gpioClass).exec (pair.drive command) tree).outcome = .done ()) :
    pair.Tells (sysfsHardware gpioClass) .indeterminate
      ((sysfsHardware gpioClass).exec (pair.drive command) tree).world := by
  obtain ⟨hbootSelect, -⟩ := isAt_of_drive hdone
  have hreset : pair.reset.IsAt command.bootSelectLevel
      ((sysfsHardware gpioClass).exec (pair.drive command) tree).world := by
    rw [SysfsLine.IsAt, h]
    exact hbootSelect
  have htells := LinePair.tells_of_get (sysfsHardware_still gpioClass)
    (congrArg Run.outcome hreset.get_eq) (congrArg Run.outcome hbootSelect.get_eq)
  rwa [(LogicalState.classify_eq_indeterminate_iff _ _).2 rfl] at htells

/-! ## Acquisition -/

namespace SysfsLine

variable {gpio : Nat} {request : LineRequest} {tree : FileTree}

theorem yields_giveUp {name : String} {cause : Failure}
    {post : Except Failure SysfsLine → FileTree → Prop}
    (h : ∀ failure, post (.error failure) tree) : (giveUp name cause).Yields tree post := by
  rw [giveUp, Action.yields_bind]
  exact h _

/-- The line that is handed out has the number that was asked for. -/
theorem yields_acquire (gpioClass : Path) (request : LineRequest) (tree : FileTree) :
    (acquire gpioClass request).Yields tree fun result _ => ∀ line, result = .ok line →
      ∃ gpio, request.gpio = some gpio ∧
        line = ofGpio gpioClass request.name gpio request.polarity := by
  unfold acquire
  split
  · simp [Action.noteError, Action.yields_bind]
  · next gpio hgpio =>
    -- what the steps come to does not matter here, only which of them can be the last
    generalize ensureExported gpioClass request.name gpio = ensured
    generalize configure (directory gpioClass gpio) request = configured
    generalize takeBack gpioClass gpio = takenBack
    rw [Action.yields_bind]
    refine Action.yields_of_forall fun exported later => ?_
    cases exported with
    | error failure => rintro _ ⟨⟩
    | ok exported =>
      dsimp only
      rw [Action.yields_bind, Action.yields_attempt]
      refine Action.yields_of_forall fun result later => ?_
      cases result with
      | ok _ =>
        rintro line ⟨⟩
        exact ⟨gpio, hgpio, rfl⟩
      | error cause =>
        cases exported with
        | false => exact yields_giveUp (by rintro _ _ ⟨⟩)
        | true =>
          dsimp only
          rw [if_pos rfl, Action.yields_bind]
          refine Action.yields_of_forall fun result later => ?_
          cases result with
          | error failure => rintro _ ⟨⟩
          | ok _ => exact yields_giveUp (by rintro _ _ ⟨⟩)

/-! ## Exported lines -/

/-- The line of a number is exported, with files that can be written, and so can the file that takes
exports back. -/
structure Exported (gpioClass : Path) (gpio : Nat) (tree : FileTree) : Prop where
  leads : tree.leads (directory gpioClass gpio) = true
  activeLow : tree.HoldsFile ((directory gpioClass gpio).join "active_low")
  direction : tree.HoldsFile ((directory gpioClass gpio).join "direction")
  value : tree.HoldsFile (valuePath gpioClass gpio)
  unexport : tree.HoldsFile (gpioClass.join "unexport")

theorem Exported.of_preserves {later : FileTree} (h : Exported gpioClass gpio tree)
    (hkept : tree.Preserves later) : Exported gpioClass gpio later where
  leads := (hkept.leads _).trans h.leads
  activeLow := hkept.holdsFile h.activeLow
  direction := hkept.holdsFile h.direction
  value := hkept.holdsFile h.value
  unexport := hkept.holdsFile h.unexport

/-- An exported line is handed out, whatever its files hold. -/
theorem acquire_exported (h : Exported gpioClass gpio tree) (hgpio : request.gpio = some gpio) :
    (acquire gpioClass request).Delivers tree fun result later =>
      result = .ok (ofGpio gpioClass request.name gpio request.polarity) ∧
        tree.Preserves later := by
  have hensured : (ensureExported gpioClass request.name gpio).Delivers tree fun result later =>
      result = .ok false ∧ later = tree := by
    rw [ensureExported]
    refine .bind ⟨.ok tree, rfl, ?_⟩
    dsimp only
    rw [if_pos h.leads, Action.noteWarn]
    exact .bind ((Action.delivers_note _ _).2 ((Action.delivers_pure _).2 ⟨rfl, rfl⟩))
  have hconfigured : (configure (directory gpioClass gpio) request).Delivers tree
      fun result later => result = .ok () ∧ tree.Preserves later := by
    obtain ⟨middle, hfirst, -, hmiddle, -⟩ :=
      write_holdsFile h.activeLow (polarityDigit request.polarity)
    obtain ⟨later, hsecond, -, hlater, -⟩ := write_holdsFile (hmiddle.holdsFile h.direction)
      (directionWord (request.polarity.toPhysical request.initial))
    rw [configure]
    refine .bind ⟨.ok (), congrArg Run.outcome hfirst, ?_⟩
    rw [hfirst]
    refine ⟨.ok (), congrArg Run.outcome hsecond, rfl, ?_⟩
    rw [hsecond]
    exact hmiddle.trans hlater
  rw [acquire, hgpio]
  refine .bind (hensured.mono ?_)
  rintro _ _ ⟨rfl, rfl⟩
  refine .bind (.attempt (hconfigured.mono ?_))
  rintro _ later ⟨rfl, hlater⟩
  exact (Action.delivers_pure _).2 ⟨rfl, hlater⟩

/-- A line is given back, and all lines keep their levels. -/
theorem release_exported (h : Exported gpioClass gpio tree) (name : String) (polarity : Polarity) :
    ((ofGpio gpioClass name gpio polarity).release).Delivers tree fun result later =>
      result = .ok () ∧ tree.Preserves later ∧
        ∀ name' gpio' polarity' level, (ofGpio gpioClass name' gpio' polarity').IsAt level tree →
          (ofGpio gpioClass name' gpio' polarity').IsAt level later := by
  obtain ⟨later, hrun, -, hlater, hothers⟩ := write_holdsFile h.unexport (toString gpio)
  refine ⟨.ok (), congrArg Run.outcome hrun, rfl, ?_⟩
  rw [show ((ofGpio gpioClass name gpio polarity).release tree).world = later from
    congrArg Run.world hrun]
  refine ⟨hlater, fun name' gpio' polarity' level hat => ?_⟩
  rw [isAt_ofGpio] at hat ⊢
  exact hothers _ _ (apart_unexport gpioClass gpioClass gpio') hat

end SysfsLine

/-- Files answer every call with a value or a failure. -/
theorem sysfsHardware_calm (gpioClass : Path) : (sysfsHardware gpioClass).Calm := by
  have hwrite (path : Path) (text : String) : (Files.write path false text).Calm := by
    intro tree message
    rw [Files.write]
    split <;> rintro ⟨⟩
  have hread (path : Path) : (Files.read path).Calm := by
    intro tree message
    rw [Files.read]
    split <;> rintro ⟨⟩
  have hgiveUp {α : Type} (name : String) (cause : Failure) :
      (SysfsLine.giveUp name cause : Action FileTree α).Calm :=
    (Action.calm_note _ _).bind fun _ => Action.calm_fail _
  have htakeBack (gpio : Nat) : (SysfsLine.takeBack gpioClass gpio).Calm := by
    refine (hwrite _ _).attempt.bind fun result => ?_
    cases result with
    | ok _ => exact Action.calm_pure _
    | error cause => exact Action.calm_note _ _
  have hensure (name : String) (gpio : Nat) : (SysfsLine.ensureExported gpioClass name gpio).Calm := by
    refine Action.calm_world.bind fun tree => ?_
    split
    · exact (Action.calm_note _ _).bind fun _ => Action.calm_pure _
    · refine (hwrite _ _).attempt.bind fun result => ?_
      cases result with
      | ok _ => exact Action.calm_pure _
      | error cause => exact hgiveUp _ _
  constructor
  case acquire =>
    intro request
    change (SysfsLine.acquire gpioClass request).Calm
    unfold SysfsLine.acquire
    split
    · exact (Action.calm_note _ _).bind fun _ => Action.calm_fail _
    · refine (hensure _ _).bind fun exported => ?_
      refine ((hwrite _ _).bind fun _ => hwrite _ _).attempt.bind fun configured => ?_
      cases configured with
      | ok _ => exact Action.calm_pure _
      | error cause =>
        cases exported with
        | false => exact hgiveUp _ _
        | true => exact (htakeBack _).bind fun _ => hgiveUp _ _
  case get =>
    intro line
    refine (hread _).bind fun text => ?_
    split
    · exact Action.calm_pure _
    · exact Action.calm_fail _
  case set => exact fun line level => hwrite _ _
  case release => exact fun line => hwrite _ _
  case wait => exact fun ms => Action.calm_pure _

end CoprocReset
