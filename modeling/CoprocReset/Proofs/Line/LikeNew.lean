import CoprocReset.Proofs.Alike
import CoprocReset.Proofs.Line.Dependable
import CoprocReset.Reset.Controller

/-!
# Lines in memory with a past

A bank with a past keeps an entry of every line that was ever acquired, and everything that was ever
set is in its journal. It is like a new one for the holder of a pair of lines (`MemoryBank.LikeNew`) if
nobody has these lines, for acquiring a line makes its entry anew. From then on both banks answer every
call on the pair in the same way, and go on being alike.
-/

namespace CoprocReset

/-! ## Who has a line -/

/-- The line belongs to the pair. -/
def LinePair.Has (pair : LinePair MemoryLine) (name : String) : Prop :=
  name = pair.reset.name ∨ name = pair.bootSelect.name

namespace MemoryLine

variable (line : MemoryLine) (bank : MemoryBank)

/-- After its release a line is held by nobody, whether or not it was held before. -/
theorem heldAt_release (name : String) :
    (line.release bank).world.heldAt name = if name = line.name then false else bank.heldAt name := by
  cases hheld : bank.heldAt line.name with
  | true =>
    obtain ⟨entry, hrun⟩ := line.release_eq hheld
    rw [hrun, MemoryBank.heldAt_put]
  | false =>
    have hsame : (line.release bank).world = bank := by
      rw [MemoryBank.heldAt] at hheld
      cases hentry : bank.entryAt line.name with
      | none => simp [release, Action.bind_apply, Action.andThen, Action.world, Action.fail, hentry]
      | some entry =>
        have : entry.held = false := by simpa [hentry] using hheld
        simp [release, Action.bind_apply, Action.andThen, Action.world, Action.fail, hentry, this]
    rw [hsame]
    split
    · next hname => rw [hname, hheld]
    · rfl

end MemoryLine

/-- Who forces a line does not take it. -/
theorem MemoryBank.heldAt_force (bank : MemoryBank) (forced : String) (level : Level) (name : String) :
    (bank.force forced level).heldAt name = bank.heldAt name := by
  rw [force]
  cases hentry : bank.entryAt forced with
  | none => rfl
  | some entry =>
    refine (heldAt_put ..).trans ?_
    split
    · next hname => rw [heldAt, hname, hentry]; rfl
    · rfl

/-- Scripts change nothing about who has which line. -/
theorem steady_heldAt {α : Type} (script : LineScript MemoryLine α) :
    (memoryHardware.exec script).Steady MemoryBank.heldAt := by
  refine Script.steady_exec _ (fun call bank => ?_) script
  cases call with
  | get line => exact congrArg MemoryBank.heldAt (memoryHardware_still line bank)
  | set line level => exact funext fun name => MemoryBank.heldAt_set line level bank name

section GiveBack

variable {pair : LinePair MemoryLine} {bank : MemoryBank} {allowed : String → Prop}
  (h : ∀ name, bank.heldAt name = true → allowed name ∨ pair.Has name)
include h

/-- Once both lines of a pair were released, only what else was held still is. -/
theorem yields_release_held : (memoryHardware.release pair.reset).Yields bank fun _ middle =>
    (memoryHardware.release pair.bootSelect).Yields middle fun _ later =>
      ∀ name, later.heldAt name = true → allowed name := by
  refine Action.yields_of_run fun _ _ => Action.yields_of_run fun _ _ name hname => ?_
  have hlast := MemoryLine.heldAt_release pair.bootSelect (pair.reset.release bank).world name
  have hfirst := MemoryLine.heldAt_release pair.reset bank name
  have hheld := hlast.symm.trans hname
  rw [hfirst] at hheld
  split at hheld
  · cases hheld
  · next hbootSelect =>
    split at hheld
    · cases hheld
    · next hreset => exact (h name hheld).resolve_right fun hhas => hhas.elim hreset hbootSelect

/-- So it is if they were driven before. -/
theorem yields_giveBack_held (command : Command) :
    (memoryHardware.exec (pair.drive command)).Yields bank fun _ driven =>
      (memoryHardware.release pair.reset).Yields driven fun _ middle =>
        (memoryHardware.release pair.bootSelect).Yields middle fun _ later =>
          ∀ name, later.heldAt name = true → allowed name :=
  ((steady_heldAt _).yields bank).mono fun _ _ hdriven =>
    yields_release_held fun name hname => h name (hdriven ▸ hname)

end GiveBack

/-! ## Banks that are alike -/

/-- For the holder of the pair the bank is like the new one, apart from a journal of earlier times. The
new one knows the lines of the names that were acquired in the meantime, and the other has them at the
same levels; the lines of the pair that the new one does not know are held by nobody. -/
structure MemoryBank.LikeNew (pair : LinePair MemoryLine) (earlier : List (String × Level))
    (acquired : String → Prop) (bank new : MemoryBank) : Prop where
  refusals : bank.refusals = new.refusals
  journal : bank.journal = earlier ++ new.journal
  known (name : String) (h : acquired name) : (new.entryAt name).isSome
  same {name : String} {entry : MemoryEntry} (h : new.entryAt name = some entry) :
    bank.entryAt name = some entry
  free {name : String} (h : pair.Has name) (hnew : new.entryAt name = none) :
    bank.heldAt name = false

/-- The call is on a line of a name that is allowed. -/
def LineCall.On (allowed : String → Prop) : {β : Type} → LineCall MemoryLine β → Prop
  | _, .get line => allowed line.name
  | _, .set line _ => allowed line.name

section Scripts

variable {pair : LinePair MemoryLine} {allowed : String → Prop}
  (h : ∀ name, pair.Has name → allowed name)
include h

theorem LinePair.all_drive (command : Command) : (pair.drive command).All (LineCall.On allowed) :=
  ((Script.all_ask _).2 (h _ (.inl rfl))).bind fun _ => (Script.all_ask _).2 (h _ (.inr rfl))

/-- Under the lock only calls on the lines of the pair are made. -/
theorem Section.all_routine {α : Type} (stay : Section MemoryLine α) :
    (stay.routine pair).All (LineCall.On allowed) := by
  cases stay with
  | ready => exact Script.all_pure _
  | drive command => exact LinePair.all_drive h command
  | surrender => exact (LinePair.all_drive h .hold).attempt.bind fun _ => Script.all_pure _
  | classify =>
    exact ((Script.all_ask _).2 (h _ (.inl rfl))).bind fun _ =>
      ((Script.all_ask _).2 (h _ (.inr rfl))).bind fun _ => Script.all_pure _

end Scripts

namespace MemoryBank.LikeNew

variable {pair : LinePair MemoryLine} {earlier : List (String × Level)} {acquired : String → Prop}
  {bank new : MemoryBank} {line : MemoryLine}

/-- Both banks have one entry under the name. -/
theorem entry (h : LikeNew pair earlier acquired bank new) {name : String} (hname : acquired name) :
    ∃ entry, bank.entryAt name = some entry ∧ new.entryAt name = some entry := by
  obtain ⟨entry, hentry⟩ := Option.isSome_iff_exists.1 (h.known name hname)
  exact ⟨entry, h.same hentry, hentry⟩

/-- The same entry is put into both banks. -/
theorem put (h : LikeNew pair earlier acquired bank new) (name : String) (entry : MemoryEntry) :
    LikeNew pair earlier (fun other => other = name ∨ acquired other) (bank.put name entry)
      (new.put name entry) where
  refusals := h.refusals
  journal := h.journal
  known other hother := by
    rw [entryAt_put]
    split
    · rfl
    · next hne => exact h.known other (hother.resolve_left hne)
  same {other _} hother := by
    rw [entryAt_put] at hother ⊢
    split at hother
    · next heq => rw [if_pos heq, hother]
    · next hne => rw [if_neg hne, h.same hother]
  free {other} hother hnew := by
    rw [entryAt_put] at hnew
    split at hnew
    · cases hnew
    · next hne => rw [heldAt_put, if_neg hne, h.free hother hnew]

theorem mono {acquired' : String → Prop} (h : LikeNew pair earlier acquired bank new)
    (himp : ∀ name, acquired' name → acquired name) : LikeNew pair earlier acquired' bank new :=
  { h with known := fun name hname => h.known name (himp name hname) }

/-! ## Calls -/

theorem get_alike (h : LikeNew pair earlier acquired bank new) (hline : acquired line.name) :
    Action.Alike line.get line.get bank new fun _ => LikeNew pair earlier acquired := by
  obtain ⟨entry, hbank, hnew⟩ := h.entry hline
  rw [Action.Alike, MemoryLine.get_eq hbank, MemoryLine.get_eq hnew]
  refine ⟨?_, h⟩
  simp [MemoryBank.levelAt, hbank, hnew]

theorem set_alike (h : LikeNew pair earlier acquired bank new) (hline : acquired line.name)
    (level : Level) :
    Action.Alike (line.set level) (line.set level) bank new
      fun _ => LikeNew pair earlier acquired := by
  obtain ⟨entry, hbank, hnew⟩ := h.entry hline
  rw [Action.Alike, MemoryLine.set_eq hbank, MemoryLine.set_eq hnew]
  have hput := (h.put line.name { entry with level }).mono fun _ hname => .inr hname
  refine ⟨rfl, ?_⟩
  exact { hput with journal := by simp [h.journal] }

theorem release_alike (h : LikeNew pair earlier acquired bank new) (hline : acquired line.name) :
    Action.Alike line.release line.release bank new fun _ => LikeNew pair earlier acquired := by
  obtain ⟨entry, hbank, hnew⟩ := h.entry hline
  rw [MemoryLine.release]
  refine .world_bind ?_
  simp only [hbank, hnew]
  split
  · exact ⟨rfl, (h.put line.name { entry with held := false }).mono fun _ hname => .inr hname⟩
  · exact Action.alike_fail h

theorem acquire_alike (h : LikeNew pair earlier acquired bank new) {request : LineRequest}
    (hrequest : pair.Has request.name) :
    Action.Alike (MemoryLine.acquire request) (MemoryLine.acquire request) bank new
      fun outcome later later' => LikeNew pair earlier acquired later later' ∧
        ∀ line, outcome = .done line → line = ⟨request.name, request.polarity⟩ ∧
          LikeNew pair earlier (fun name => name = request.name ∨ acquired name) later later' := by
  have hheld : bank.heldAt request.name = new.heldAt request.name := by
    cases hnew : new.entryAt request.name with
    | none => rw [h.free hrequest hnew, heldAt, hnew]; rfl
    | some entry => rw [heldAt, heldAt, hnew, h.same hnew]
  rw [MemoryLine.acquire]
  refine .world_bind ?_
  rw [h.refusals]
  cases new.refusals.lookup request.name with
  | some code => exact Action.alike_fail ⟨h, by rintro _ ⟨⟩⟩
  | none =>
    rw [show (bank.entryAt request.name).any (·.held) = (new.entryAt request.name).any (·.held)
      from hheld]
    dsimp only
    split
    · exact Action.alike_fail ⟨h, by rintro _ ⟨⟩⟩
    · have hput := h.put request.name ⟨request.initial, request.polarity, true⟩
      refine ⟨rfl, hput.mono fun _ hname => .inr hname, ?_⟩
      rintro line ⟨⟩
      exact ⟨rfl, hput⟩

/-- A script on lines that were acquired is alike. -/
theorem exec_alike {α : Type} (h : LikeNew pair earlier acquired bank new)
    {script : LineScript MemoryLine α} (hall : script.All (LineCall.On acquired)) :
    Action.Alike (memoryHardware.exec script) (memoryHardware.exec script) bank new
      fun _ => LikeNew pair earlier acquired := by
  refine Script.exec_alike_of_all (fun call bank new hcall h => ?_) hall h
  cases call with
  | get line => exact h.get_alike hcall
  | set line level => exact h.set_alike hcall level

end MemoryBank.LikeNew

end CoprocReset
