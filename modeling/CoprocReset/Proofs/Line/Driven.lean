import CoprocReset.Proofs.Line.Pair

/-!
# What lines tell after they were driven

A pair that `Settles` is reliable as soon as a command was carried out on it, whatever the world was
before: files that held anything hold levels afterwards, and names that nobody knew are known. If in
addition a look at a line changes nothing (`Hardware.Still`), the pair goes on to tell the state that
the command asks for, however often it is asked (`Settles.tells`).
-/

namespace CoprocReset

variable {V W L M : Type}

/-- A look at a line changes nothing. -/
def Hardware.Still (hw : Hardware W L) : Prop := ∀ line world, (hw.get line world).world = world

/-- The levels that a command drives the lines to. -/
def Command.levels (command : Command) : Level × Level :=
  (command.resetLevel, command.bootSelectLevel)

namespace LinePair

variable {pair : LinePair L} {hw : Hardware W L} {levels : W → Level × Level} {inOrder : W → Prop}
  {world : W} {state : LogicalState}

theorem exec_drive (hw : Hardware W L) (pair : LinePair L) (command : Command) :
    hw.exec (pair.drive command) =
      hw.set pair.reset command.resetLevel >>= fun _ =>
        hw.set pair.bootSelect command.bootSelectLevel := by
  simp only [LinePair.drive, Hardware.exec, Script.exec_bind, Script.exec_ask, Hardware.perform]

theorem exec_classify (hw : Hardware W L) (pair : LinePair L) :
    hw.exec pair.classify =
      hw.get pair.reset >>= fun reset => hw.get pair.bootSelect >>= fun bootSelect =>
        pure (.classify reset bootSelect) := by
  simp only [LinePair.classify, Hardware.exec, Script.exec_bind, Script.exec_ask, Hardware.perform,
    Script.exec_pure]

/-- In a world in order a command leaves its levels on the lines. -/
theorem Reliable.drive (h : pair.Reliable hw levels inOrder) (horder : inOrder world)
    (command : Command) :
    (hw.exec (pair.drive command) world).outcome = .done () ∧
      inOrder (hw.exec (pair.drive command) world).world ∧
      levels (hw.exec (pair.drive command) world).world = command.levels := by
  obtain ⟨hreset, hmiddle, hset⟩ := h.set_reset horder command.resetLevel
  obtain ⟨hbootSelect, hlater, hset'⟩ := h.set_bootSelect hmiddle command.bootSelectLevel
  rw [hset] at hset'
  rcases hrun : hw.set pair.reset command.resetLevel world with ⟨_, middle, log⟩
  rw [hrun] at hreset hbootSelect hlater hset'
  obtain rfl : _ = Outcome.done () := hreset
  rw [exec_drive, Action.bind_done hrun]
  exact ⟨hbootSelect, hlater, hset'⟩

/-- In a world in order a look tells what the levels stand for, and changes nothing about them. -/
theorem Reliable.classify (h : pair.Reliable hw levels inOrder) (horder : inOrder world) :
    (hw.exec pair.classify world).outcome = .done (.classify (levels world).1 (levels world).2) ∧
      inOrder (hw.exec pair.classify world).world ∧
      levels (hw.exec pair.classify world).world = levels world := by
  obtain ⟨hreset, hmiddle, hsame⟩ := h.get_reset horder
  obtain ⟨hbootSelect, hlater, hsame'⟩ := h.get_bootSelect hmiddle
  rw [hsame] at hbootSelect hsame'
  rcases hrun : hw.get pair.reset world with ⟨_, middle, log⟩
  rcases hrun' : hw.get pair.bootSelect middle with ⟨_, later, log'⟩
  rw [hrun] at hreset hbootSelect hlater hsame'
  rw [hrun'] at hbootSelect hlater hsame'
  obtain rfl : _ = Outcome.done _ := hreset
  obtain rfl : _ = Outcome.done _ := hbootSelect
  rw [exec_classify, Action.bind_done hrun, Action.bind_done hrun']
  exact ⟨rfl, hlater, hsame'⟩

/-- A look at both lines changes nothing, whatever comes of it. -/
theorem classify_still (hstill : hw.Still) (pair : LinePair L) (world : W) :
    (hw.exec pair.classify world).world = world := by
  rw [exec_classify]
  have hfirst := hstill pair.reset world
  rcases hreset : hw.get pair.reset world with ⟨reset | failure | message, middle, log⟩ <;>
    rw [hreset] at hfirst <;> obtain rfl : middle = world := hfirst
  case failed => rw [Action.bind_failed hreset]
  case crashed => rw [Action.bind_crashed hreset]
  rw [Action.bind_done hreset]
  have hsecond := hstill pair.bootSelect middle
  rcases hbootSelect : hw.get pair.bootSelect middle with ⟨bootSelect | failure | message, later, log⟩ <;>
    rw [hbootSelect] at hsecond <;> obtain rfl : later = middle := hsecond
  case failed => rw [Action.bind_failed hbootSelect]
  case crashed => rw [Action.bind_crashed hbootSelect]
  rw [Action.bind_done hbootSelect]
  rfl

/-- The lines are seen to stand for the state. -/
def Tells (pair : LinePair L) (hw : Hardware W L) (state : LogicalState) (world : W) : Prop :=
  (hw.exec pair.classify world).outcome = .done state

theorem tells_of_get (hstill : hw.Still) {reset bootSelect : Level}
    (hreset : (hw.get pair.reset world).outcome = .done reset)
    (hbootSelect : (hw.get pair.bootSelect world).outcome = .done bootSelect) :
    pair.Tells hw (.classify reset bootSelect) world := by
  have hsame := hstill pair.reset world
  rcases hr : hw.get pair.reset world with ⟨_, middle, log⟩
  rw [hr] at hreset hsame
  obtain rfl : _ = Outcome.done reset := hreset
  obtain rfl : middle = world := hsame
  rcases hb : hw.get pair.bootSelect middle with ⟨_, later, log'⟩
  rw [hb] at hbootSelect
  obtain rfl : _ = Outcome.done bootSelect := hbootSelect
  rw [Tells, exec_classify, Action.bind_done hr, Action.bind_done hb]
  rfl

theorem Reliable.tells (h : pair.Reliable hw levels inOrder) (hstill : hw.Still)
    (horder : inOrder world) : pair.Tells hw (.classify (levels world).1 (levels world).2) world :=
  tells_of_get hstill (h.get_reset horder).1 (h.get_bootSelect horder).1

/-- Once a command was carried out, the pair is reliable and at the levels of the command. -/
structure Settles (pair : LinePair L) (hw : Hardware W L) (levels : W → Level × Level)
    (inOrder : W → Prop) : Prop where
  reliable : pair.Reliable hw levels inOrder
  drive {world : W} {command : Command}
    (h : (hw.exec (pair.drive command) world).outcome = .done ()) :
    inOrder (hw.exec (pair.drive command) world).world ∧
      levels (hw.exec (pair.drive command) world).world = command.levels

theorem Settles.tells (h : pair.Settles hw levels inOrder) (hstill : hw.Still) {command : Command}
    (hdone : (hw.exec (pair.drive command) world).outcome = .done ()) :
    pair.Tells hw command.target (hw.exec (pair.drive command) world).world := by
  obtain ⟨horder, hlevels⟩ := h.drive hdone
  have htells := h.reliable.tells hstill horder
  rwa [hlevels, show (Command.levels command).1 = command.resetLevel from rfl,
    show (Command.levels command).2 = command.bootSelectLevel from rfl,
    command.classify_levels] at htells

end LinePair

/-! ## Lines within lines -/

/-- The pair with its lines seen in another way. -/
def LinePair.map (f : L → M) (pair : LinePair L) : LinePair M := ⟨f pair.reset, f pair.bootSelect⟩

/-- Lines of the inner hardware, under other names and within a larger world, are lines of the outer
hardware. -/
structure Hardware.Contains (outer : Hardware V M) (inner : Hardware W L) (part : Lens V W)
    (f : L → M) : Prop where
  get (line : L) : outer.get (f line) = (inner.get line).on part
  set (line : L) (level : Level) : outer.set (f line) level = (inner.set line level).on part

namespace Hardware.Contains

variable {outer : Hardware V M} {inner : Hardware W L} {part : Lens V W} {f : L → M}
  {pair : LinePair L}

theorem exec_drive (h : outer.Contains inner part f) (command : Command) :
    outer.exec ((pair.map f).drive command) = (inner.exec (pair.drive command)).on part := by
  simp only [LinePair.exec_drive, LinePair.map, h.set, Action.bind_on]

theorem exec_classify (h : outer.Contains inner part f) :
    outer.exec (pair.map f).classify = (inner.exec pair.classify).on part := by
  simp only [LinePair.exec_classify, LinePair.map, h.get, Action.bind_on, Action.pure_on]

theorem tells (h : outer.Contains inner part f) {state : LogicalState} {world : V}
    (htells : pair.Tells inner state (part.get world)) :
    (pair.map f).Tells outer state world := by
  rw [LinePair.Tells, h.exec_classify]
  exact htells

/-- What the inner lines tell once the command was carried out, the outer lines tell. -/
theorem tells_drive (h : outer.Contains inner part f) {command : Command} {state : LogicalState}
    {world : V}
    (hinner : (inner.exec (pair.drive command) (part.get world)).outcome = .done () →
      pair.Tells inner state (inner.exec (pair.drive command) (part.get world)).world)
    (hdone : (outer.exec ((pair.map f).drive command) world).outcome = .done ()) :
    (pair.map f).Tells outer state (outer.exec ((pair.map f).drive command) world).world := by
  rw [h.exec_drive] at hdone ⊢
  refine h.tells ?_
  rw [Action.on, part.get_set]
  exact hinner hdone

end Hardware.Contains

end CoprocReset
