import CoprocReset.Proofs.Line.Pair
import CoprocReset.Reset.Controller

/-!
# What a stay under the lock comes to

`Section.Reaches` says what a stay is to come to when the lines are at the levels of a command
before it: a look gives the state that the command asks for, a command leaves its own levels, and
handing the lines back leaves those that hold the coprocessor in reset. On reliable lines the
routine of the stay does come to that (`routine_reaches`).
-/

namespace CoprocReset

namespace Section

variable {W L β : Type}

/-- What a stay comes to when the lines are at the levels of a command before it. -/
def Reaches (shows : Command → W → Prop) (command : Command) :
    Section L β → Except Failure β → W → Prop
  | .ready, result, later => result = .ok () ∧ shows command later
  | .classify, result, later => result = .ok command.target ∧ shows command later
  | .drive next, result, later => result = .ok () ∧ shows next later
  | .surrender, result, later => (∃ lines, result = .ok lines) ∧ shows .hold later

/-- The world is in order and the lines are at the levels of the command. -/
def Shows (levels : W → Level × Level) (inOrder : W → Prop) (command : Command) (world : W) :
    Prop :=
  inOrder world ∧ levels world = (command.resetLevel, command.bootSelectLevel)

variable {pair : LinePair L} {hw : Hardware W L} {levels : W → Level × Level} {inOrder : W → Prop}

/-- The calls of a stay come to what it is to come to. -/
theorem routine_reaches (h : pair.Reliable hw levels inOrder) {command : Command} {world : W}
    (hworld : Shows levels inOrder command world) (stay : Section L β) :
    (hw.exec (stay.routine pair)).Delivers world
      (stay.Reaches (Shows levels inOrder) command) := by
  have hfinish {result : Except Failure β} {later : W}
      (hpost : stay.Reaches (Shows levels inOrder) command result later) :
      (hw.exec (.finish result)).Delivers later (stay.Reaches (Shows levels inOrder) command) :=
    (Action.delivers_ofExcept result).2 hpost
  obtain ⟨horder, hlevels⟩ := hworld
  cases stay with
  | ready => exact hfinish ⟨rfl, horder, hlevels⟩
  | classify =>
    obtain ⟨hreset, hmiddle, hsame⟩ := h.get_reset horder
    obtain ⟨hbootSelect, hlater, hsame'⟩ := h.get_bootSelect hmiddle
    rw [hsame, hlevels] at hsame' hbootSelect
    rw [hlevels] at hreset
    refine Script.delivers_call_of_done _ hreset (Script.delivers_call_of_done _ hbootSelect ?_)
    exact hfinish ⟨congrArg Except.ok command.classify_levels, hlater, hsame'⟩
  | drive next =>
    obtain ⟨hreset, hmiddle, hset⟩ := h.set_reset horder next.resetLevel
    obtain ⟨hbootSelect, hlater, hset'⟩ := h.set_bootSelect hmiddle next.bootSelectLevel
    rw [hset] at hset'
    refine Script.delivers_call_of_done _ hreset (Script.delivers_call_of_done _ hbootSelect ?_)
    exact hfinish ⟨rfl, hlater, hset'⟩
  | surrender =>
    obtain ⟨hreset, hmiddle, hset⟩ := h.set_reset horder Command.hold.resetLevel
    obtain ⟨hbootSelect, hlater, hset'⟩ := h.set_bootSelect hmiddle Command.hold.bootSelectLevel
    rw [hset] at hset'
    refine Script.delivers_call_of_done _ hreset (Script.delivers_call_of_done _ hbootSelect ?_)
    exact hfinish ⟨⟨_, rfl⟩, hlater, hset'⟩

end Section

end CoprocReset
