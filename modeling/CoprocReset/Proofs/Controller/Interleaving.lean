import CoprocReset.Proofs.Controller.Looks
import CoprocReset.Proofs.Controller.Stay
import CoprocReset.Proofs.Line.Memory

/-!
# No half-driven pair

Threads share a controller whose lines are reliable, and nobody else touches the lines. Between the
two calls of a command the levels stand for no clear state, but nobody sees that: a look shows the
state of the last command that was carried out before it. After a shutdown no line is touched again,
and the coprocessor stays held in reset (`no_half_driven_pair`).

The invariant is `Sound`. While the lock is free, the levels are those of the last command; a thread
that has it is on its way to what its stay is to come to, wherever it is interrupted.
-/

namespace CoprocReset

namespace Shared

variable {W L : Type} {pair : LinePair L} {hw : Hardware W L} {levels : W → Level × Level}
  {inOrder : W → Prop} {first : Command} {history : List (Event L)} {shared : Shared W L}
  {thread : Nat}

/-- Whatever comes next, the thread will return what was seen by then. -/
def WillReport (seen : LogicalState → Prop) : Thread L → Prop
  | .idle => True
  | .outside operation rest => Honest operation rest seen
  | .inside operation stay _ next =>
    ∀ answer, Honest operation (next answer) fun state =>
      seen state ∨ Learned (.enter stay) answer state

/-- What the lines and the lock are at. -/
inductive Condition (pair : LinePair L) (hw : Hardware W L) (levels : W → Level × Level)
    (inOrder : W → Prop) (first : Command) (history : List (Event L)) (shared : Shared W L) : Prop
  /-- Nobody has the lock, and the levels are those of the last command. -/
  | free (howner : shared.owner = none) (hcustody : shared.controller.custody = .holding pair)
    (hshows : Section.Shows levels inOrder (lastCommand first history) shared.world)
    (hopen : ¬ShutDown history)
  /-- A thread has the lock, and is on its way. -/
  | busy {thread : Nat} {α β : Type} {operation : Operation L α} {stay : Section L β}
    {rest : LineScript L β} {next : Except Failure β → ControllerScript L α}
    (howner : shared.owner = some thread)
    (hthread : shared.threads thread = .inside operation stay rest next)
    (hcustody : shared.controller.custody = .holding pair)
    (hreaches : (hw.exec rest).Delivers shared.world
      (stay.Reaches (Section.Shows levels inOrder) (lastCommand first history)))
    (hopen : ¬ShutDown history)
  /-- The lines are gone, and whoever has the lock is about to find that out. -/
  | closed (hcustody : shared.controller.custody = .vacant)
    (hlevels : levels shared.world = (.low, .high))
    (hrest : ∀ thread {α β : Type} (operation : Operation L α) (stay : Section L β) rest next,
      shared.threads thread = .inside operation stay rest next →
      ∃ failure, rest = .finish (.error failure))

/-- The invariant. -/
structure Sound (pair : LinePair L) (hw : Hardware W L) (levels : W → Level × Level)
    (inOrder : W → Prop) (first : Command) (history : List (Event L)) (shared : Shared W L) :
    Prop where
  reports (thread : Nat) : WillReport (Saw first thread history) (shared.threads thread)
  owner {thread : Nat} (h : IsInside (shared.threads thread)) : shared.owner = some thread
  condition : Condition pair hw levels inOrder first history shared
  fits {before : List (Event L)} {event : Event L} {after : List (Event L)}
    (h : history = before ++ event :: after) : Fits first before event

theorem WillReport.mono {seen seen' : LogicalState → Prop} {state : Thread L}
    (h : WillReport seen state) (himp : ∀ state, seen state → seen' state) :
    WillReport seen' state := by
  cases state with
  | idle => trivial
  | outside operation rest => exact Honest.mono h himp
  | inside operation stay rest next =>
    exact fun answer => (h answer).mono fun state => Or.imp_left (himp state)

theorem fits_began (first : Command) (history : List (Event L)) (thread : Nat) {α : Type}
    (operation : Operation L α) : Fits first history (.began thread operation) where
  look := by rintro _ _ ⟨⟩
  read := by rintro _ _ ⟨⟩
  content := by rintro _ _ ⟨⟩
  untouched := by rintro _ _ _ ⟨⟩

theorem fits_locked (first : Command) (history : List (Event L)) (thread : Nat) :
    Fits first history (.locked thread) where
  look := by rintro _ _ ⟨⟩
  read := by rintro _ _ ⟨⟩
  content := by rintro _ _ ⟨⟩
  untouched := by rintro _ _ _ ⟨⟩

/-! ## Moves outside the lock -/

section Condition

variable (h : Condition pair hw levels inOrder first history shared)
include h

theorem Condition.snoc {event : Event L} (hevent : event.isUnlock = false) :
    Condition pair hw levels inOrder first (history ++ [event]) shared := by
  have hcommand : lastCommand first (history ++ [event]) = lastCommand first history := by
    rw [lastCommand_snoc, command?_eq_none hevent, Option.getD_none]
  cases h with
  | free howner hcustody hshows hopen =>
    exact .free howner hcustody (hcommand ▸ hshows) (mt (shutDown_snoc hevent).1 hopen)
  | busy howner hthread hcustody hreaches hopen =>
    exact .busy howner hthread hcustody (hcommand ▸ hreaches) (mt (shutDown_snoc hevent).1 hopen)
  | closed hcustody hlevels hrest => exact .closed hcustody hlevels hrest

theorem Condition.setThread {state : Thread L} (hbefore : ¬IsInside (shared.threads thread))
    (hafter : ¬IsInside state) :
    Condition pair hw levels inOrder first history (shared.setThread thread state) := by
  cases h with
  | free howner hcustody hshows hopen => exact .free howner hcustody hshows hopen
  | @busy owner _ _ _ _ _ _ howner hthread hcustody hreaches hopen =>
    have hne : owner ≠ thread := by
      rintro rfl
      exact hbefore (isInside_of_eq hthread)
    exact .busy howner (by rw [threads_setThread, if_neg hne, hthread]) hcustody hreaches hopen
  | closed hcustody hlevels hrest =>
    refine .closed hcustody hlevels fun other _ _ operation stay rest next hother => ?_
    rw [threads_setThread] at hother
    split at hother
    · exact absurd (hother ▸ trivial) hafter
    · exact hrest other operation stay rest next hother

end Condition

section Sound

variable (h : Sound pair hw levels inOrder first history shared)
include h

/-- What the threads will say after an event of one of them. -/
theorem Sound.reports_snoc {event : Event L} {state : Thread L}
    (hbegan : ∀ other ≠ thread, ∀ {α : Type} (operation : Operation L α),
      event ≠ .began other operation)
    (hstate : WillReport (Saw first thread (history ++ [event])) state) (other : Nat) :
    WillReport (Saw first other (history ++ [event]))
      ((shared.setThread thread state).threads other) := by
  rw [threads_setThread]
  split
  · next heq => exact heq ▸ hstate
  · next hne => exact (h.reports other).mono fun _ hsaw => hsaw.snoc (hbegan other hne)

theorem Sound.owner_setThread {state : Thread L} (hafter : ¬IsInside state) {other : Nat}
    (hother : IsInside ((shared.setThread thread state).threads other)) :
    shared.owner = some other := by
  rw [threads_setThread] at hother
  split at hother
  · exact absurd hother hafter
  · exact h.owner hother

theorem Sound.setThread {state : Thread L} (hbefore : ¬IsInside (shared.threads thread))
    (hafter : ¬IsInside state) (hstate : WillReport (Saw first thread history) state) :
    Sound pair hw levels inOrder first history (shared.setThread thread state) where
  reports other := by
    rw [threads_setThread]
    split
    · next heq => exact heq ▸ hstate
    · exact h.reports other
  owner := h.owner_setThread hafter
  condition := h.condition.setThread hbefore hafter
  fits := h.fits

theorem Sound.setThread_snoc {event : Event L} {state : Thread L}
    (hbefore : ¬IsInside (shared.threads thread)) (hafter : ¬IsInside state)
    (hunlock : event.isUnlock = false)
    (hbegan : ∀ other ≠ thread, ∀ {α : Type} (operation : Operation L α),
      event ≠ .began other operation)
    (hfits : Fits first history event)
    (hstate : WillReport (Saw first thread (history ++ [event])) state) :
    Sound pair hw levels inOrder first (history ++ [event]) (shared.setThread thread state) where
  reports := h.reports_snoc hbegan hstate
  owner := h.owner_setThread hafter
  condition := (h.condition.snoc hunlock).setThread hbefore hafter
  fits := splits_snoc h.fits hfits

/-- A thread takes the lock. -/
theorem Sound.lock {α β : Type} {operation : Operation L α} {stay : Section L β}
    {next : Except Failure β → ControllerScript L α} (hreliable : pair.Reliable hw levels inOrder)
    (hthread : shared.threads thread = .outside operation (.call (.enter stay) next))
    (howner : shared.owner = none) :
    Sound pair hw levels inOrder first (history ++ [.locked thread])
      { shared.setThread thread
          (.inside operation stay (shared.controller.routine stay) next) with
        owner := some thread } where
  reports := by
    refine h.reports_snoc nofun fun answer => ?_
    have hreports : Honest operation (.call (.enter stay) next) (Saw first thread history) := by
      have := h.reports thread
      rwa [hthread] at this
    refine (hreports answer).mono fun state => Or.imp_left fun hsaw => hsaw.snoc nofun
  owner {other} hother := by
    rw [threads_setThread] at hother
    split at hother
    · next heq => exact congrArg some heq.symm
    · exact absurd (h.owner hother) (by simp [howner])
  condition := by
    have hsame : lastCommand first (history ++ [.locked thread]) = lastCommand first history :=
      lastCommand_snoc ..
    cases h.condition with
    | free _ hcustody hshows hopen =>
      refine .busy rfl (if_pos rfl) hcustody ?_ (mt (shutDown_snoc rfl).1 hopen)
      have hroutine : shared.controller.routine stay = stay.routine pair := by
        simp [Controller.routine, hcustody]
      rw [hsame, hroutine]
      exact Section.routine_reaches hreliable hshows stay
    | busy howner' => exact absurd howner' (by simp [howner])
    | closed hcustody hlevels hrest =>
      refine .closed hcustody hlevels fun other _ _ operation' stay' rest next' hother => ?_
      rw [threads_setThread] at hother
      split at hother
      · obtain ⟨⟩ := hother
        simp [Controller.routine, hcustody, Script.fail]
      · exact hrest other operation' stay' rest next' hother
  fits := splits_snoc h.fits (fits_locked ..)

theorem Sound.move_outside {α : Type} {operation : Operation L α} {rest : ControllerScript L α}
    (hreliable : pair.Reliable hw levels inOrder)
    (hthread : shared.threads thread = .outside operation rest) :
    Sound pair hw levels inOrder first
      (history ++ (shared.moveOutside thread operation rest).2)
      (shared.moveOutside thread operation rest).1 := by
  have hbefore : ¬IsInside (shared.threads thread) := by simp [hthread, IsInside]
  have hreports : Honest operation rest (Saw first thread history) := by
    have := h.reports thread
    rwa [hthread] at this
  cases rest with
  | finish result =>
    refine h.setThread_snoc hbefore id rfl nofun ?_ trivial
    constructor
    · nofun
    · rintro thread state ⟨⟩
      exact hreports state rfl
    · rintro thread text ⟨⟩
      exact hreports text rfl
    · nofun
  | call request next =>
    cases request with
    | note severity text =>
      show Sound pair hw levels inOrder first (history ++ []) _
      rw [List.append_nil]
      refine h.setThread hbefore id ((hreports (.ok ())).mono fun state hstate => ?_)
      exact hstate.resolve_right id
    | enter stay =>
      rcases howner : shared.owner with _ | owner
      · simp only [moveOutside, howner]
        exact h.lock hreliable hthread howner
      · simp only [moveOutside, howner, List.append_nil]
        exact h

/-! ## Moves under the lock -/

/-- Under the lock a thread is on its way, or the lines are gone. -/
theorem Sound.of_inside {α β : Type} {operation : Operation L α} {stay : Section L β}
    {rest : LineScript L β} {next : Except Failure β → ControllerScript L α}
    (hthread : shared.threads thread = .inside operation stay rest next) :
    shared.controller.custody = .holding pair ∧ ¬ShutDown history ∧
        (hw.exec rest).Delivers shared.world
          (stay.Reaches (Section.Shows levels inOrder) (lastCommand first history)) ∨
      shared.controller.custody = .vacant ∧ levels shared.world = (.low, .high) ∧
        ∃ failure, rest = .finish (.error failure) := by
  have howner : shared.owner = some thread := h.owner (isInside_of_eq hthread)
  cases h.condition with
  | free howner' => exact absurd (howner.symm.trans howner') nofun
  | busy howner' hthread' hcustody hreaches hopen =>
    obtain rfl := Option.some.inj (howner'.symm.trans howner)
    obtain ⟨⟩ := hthread.symm.trans hthread'
    exact .inl ⟨hcustody, hopen, hreaches⟩
  | closed hcustody hlevels hrest =>
    exact .inr ⟨hcustody, hlevels, hrest thread operation stay rest next hthread⟩

/-- A thread makes a call on a line. -/
theorem Sound.call {α β γ : Type} {operation : Operation L α} {stay : Section L β}
    {request : LineCall L γ} {rest : Except Failure γ → LineScript L β}
    {next : Except Failure β → ControllerScript L α}
    (hthread : shared.threads thread = .inside operation stay (.call request rest) next) :
    ∃ answer, (hw.perform request shared.world).outcome = .ofExcept answer ∧
      Sound pair hw levels inOrder first (history ++ [.called thread request])
        { shared.setThread thread (.inside operation stay (rest answer) next) with
          world := (hw.perform request shared.world).world } := by
  have howner : shared.owner = some thread := h.owner (isInside_of_eq hthread)
  obtain ⟨hcustody, hopen, hreaches⟩ | ⟨-, -, _, hrest⟩ := h.of_inside hthread
  case inr => cases hrest
  obtain ⟨answer, hanswer, hlater⟩ := (Script.delivers_call _).1 hreaches
  have hsame : lastCommand first (history ++ [.called thread request]) =
      lastCommand first history := lastCommand_snoc ..
  refine ⟨answer, hanswer, ?_, ?_, ?_, ?_⟩
  · refine h.reports_snoc nofun fun answer => ?_
    have hreports := h.reports thread
    rw [hthread] at hreports
    exact (hreports answer).mono fun state => Or.imp_left fun hsaw => hsaw.snoc nofun
  · intro other hother
    rw [threads_setThread] at hother
    split at hother
    · next heq => exact heq ▸ howner
    · exact h.owner hother
  · exact .busy howner (if_pos rfl) hcustody (hsame ▸ hlater) (mt (shutDown_snoc rfl).1 hopen)
  · refine splits_snoc h.fits ⟨?_, ?_, ?_, fun _ _ _ _ => hopen⟩ <;> rintro _ _ ⟨⟩

/-- When its calls are made, the stay has come to what it was to come to, or the lines were gone. -/
theorem Sound.of_finished {α β : Type} {operation : Operation L α} {stay : Section L β}
    {result : Except Failure β} {next : Except Failure β → ControllerScript L α}
    (hthread : shared.threads thread = .inside operation stay (.finish result) next) :
    shared.controller.custody = .holding pair ∧ ¬ShutDown history ∧
        stay.Reaches (Section.Shows levels inOrder) (lastCommand first history) result
          shared.world ∨
      shared.controller.custody = .vacant ∧ levels shared.world = (.low, .high) ∧
        ∃ failure, result = .error failure := by
  obtain ⟨hcustody, hopen, hreaches⟩ | ⟨hcustody, hlevels, failure, hfailed⟩ := h.of_inside hthread
  · exact .inl ⟨hcustody, hopen, (Action.delivers_ofExcept result).1 hreaches⟩
  · exact .inr ⟨hcustody, hlevels, failure, Script.finish.inj hfailed⟩

theorem Sound.fits_unlocked {α β : Type} {operation : Operation L α} {stay : Section L β}
    {result : Except Failure β} {next : Except Failure β → ControllerScript L α}
    (hthread : shared.threads thread = .inside operation stay (.finish result) next) :
    Fits first history (.unlocked thread stay result) where
  look := by
    rintro thread state ⟨⟩
    obtain ⟨-, -, hstate, -⟩ | ⟨-, -, _, hfailed⟩ := h.of_finished hthread
    · exact Except.ok.inj hstate
    · cases hfailed
  read := by rintro _ _ ⟨⟩
  content := by rintro _ _ ⟨⟩
  untouched := by rintro _ _ _ ⟨⟩

/-- A thread gives the lock back. -/
theorem Sound.unlock {α β : Type} {operation : Operation L α} {stay : Section L β}
    {result : Except Failure β} {next : Except Failure β → ControllerScript L α}
    (hthread : shared.threads thread = .inside operation stay (.finish result) next) :
    Sound pair hw levels inOrder first (history ++ [.unlocked thread stay result])
      { shared.setThread thread (.outside operation (next result)) with
        controller := shared.controller.leave stay (.ofExcept result)
        owner := none } := by
  have howner : shared.owner = some thread := h.owner (isInside_of_eq hthread)
  have hfits : Fits first history (.unlocked thread stay result) := h.fits_unlocked hthread
  have hnobody {other : Nat} : ¬IsInside
      ((shared.setThread thread (.outside operation (next result))).threads other) := by
    rw [threads_setThread]
    split
    · exact id
    · next hne => exact fun hother => hne (Option.some.inj ((h.owner hother).symm.trans howner))
  refine ⟨h.reports_snoc nofun ?_, fun hother => absurd hother hnobody, ?_, splits_snoc h.fits hfits⟩
  · have hreports := h.reports thread
    rw [hthread] at hreports
    refine (hreports result).mono fun state => ?_
    rintro (hsaw | hlearned)
    · exact hsaw.snoc nofun
    · cases stay with
      | classify =>
        cases result with
        | error failure => exact hlearned.elim
        | ok seen =>
          obtain rfl : state = seen := hlearned
          exact ⟨history, [], rfl, by simp, hfits.look thread state rfl⟩
      | _ => exact hlearned.elim
  · obtain ⟨hcustody, hopen, hreaches⟩ | ⟨hcustody, hlevels, failure, rfl⟩ := h.of_finished hthread
    · have hleft (hkeeps : stay.keepsLines = true) :
          (shared.controller.leave stay (.ofExcept result)).custody = .holding pair := by
        cases result <;>
          simp [Controller.leave, hcustody, Section.custodyAfter, hkeeps, Outcome.ofExcept]
      cases stay with
      | ready =>
        exact .free rfl (hleft rfl) (lastCommand_snoc .. ▸ hreaches.2)
          (not_shutDown_unlocked rfl hopen)
      | classify =>
        exact .free rfl (hleft rfl) (lastCommand_snoc .. ▸ hreaches.2)
          (not_shutDown_unlocked rfl hopen)
      | drive command =>
        obtain ⟨rfl, hshows⟩ := hreaches
        exact .free rfl (hleft rfl) (lastCommand_snoc .. ▸ hshows) (not_shutDown_unlocked rfl hopen)
      | surrender =>
        obtain ⟨⟨lines, rfl⟩, -, hlevels⟩ := hreaches
        refine .closed ?_ hlevels fun other _ _ _ _ _ _ hother => ?_
        · simp [Controller.leave, hcustody, Section.custodyAfter, Section.keepsLines,
            Outcome.ofExcept]
        · exact (hnobody (isInside_of_eq hother)).elim
    · refine .closed ?_ hlevels fun other _ _ _ _ _ _ hother => ?_
      · simp [Controller.leave, hcustody]
      · exact (hnobody (isInside_of_eq hother)).elim

/-! ## Any moves -/

/-- Whoever moves next, the invariant is kept. -/
theorem Sound.move (hreliable : pair.Reliable hw levels inOrder) (next : Move L) :
    Sound pair hw levels inOrder first (history ++ (shared.move hw next).2)
      (shared.move hw next).1 := by
  have hstays : Sound pair hw levels inOrder first (history ++ []) shared := by simpa using h
  cases next with
  | begin thread operation =>
    rcases hthread : shared.threads thread with _ | _ | _ <;> simp only [Shared.move, hthread]
    · have hbefore : ¬IsInside (shared.threads thread) := by simp [hthread, IsInside]
      refine h.setThread_snoc hbefore id rfl ?_ (fits_began ..) (honest_script _ operation _)
      rintro other hne _ _ ⟨⟩
      exact hne rfl
    · exact hstays
    · exact hstays
  | advance thread =>
    rcases hthread : shared.threads thread
      with _ | ⟨operation, rest⟩ | ⟨operation, stay, rest, next⟩
    · simpa only [Shared.move, hthread] using hstays
    · simpa only [Shared.move, hthread] using h.move_outside hreliable hthread
    · simp only [Shared.move, hthread]
      cases rest with
      | finish result => exact h.unlock hthread
      | call request rest =>
        obtain ⟨answer, hanswer, hsound⟩ := h.call hthread
        cases answer with
        | ok value => simpa only [moveInside, hanswer, Outcome.ofExcept] using hsound
        | error failure => simpa only [moveInside, hanswer, Outcome.ofExcept] using hsound

end Sound

theorem Sound.run (hreliable : pair.Reliable hw levels inOrder) (schedule : List (Move L))
    (h : Sound pair hw levels inOrder first history shared) :
    Sound pair hw levels inOrder first (history ++ (shared.run hw schedule).2)
      (shared.run hw schedule).1 := by
  induction schedule generalizing history shared with
  | nil => simpa [Shared.run] using h
  | cons next rest ih => simpa [Shared.run] using ih (h.move hreliable next)

theorem sound_opened (name : String) {world : W}
    (hworld : Section.Shows levels inOrder first world) :
    Sound pair hw levels inOrder first [] (opened name pair world) where
  reports _ := trivial
  owner h := h.elim
  condition := .free rfl rfl hworld fun ⟨_, _, hmem⟩ => by cases hmem
  fits h := by simp at h

theorem target_ne_indeterminate (command : Command) : command.target ≠ .indeterminate := by
  cases command <;> simp [Command.target]

/-- Whatever the threads do and whoever's move is next: a look shows the state of the last command
that was carried out before it, what is returned was seen, an unclear state is never returned, and
after a shutdown no line is touched and the coprocessor stays held in reset. -/
theorem no_half_driven_pair (hreliable : pair.Reliable hw levels inOrder) (first : Command)
    {world : W} (horder : inOrder world)
    (hlevels : levels world = (first.resetLevel, first.bootSelectLevel)) (name : String)
    (schedule : List (Move L)) :
    let result := (opened name pair world).run hw schedule
    (∀ before event after, result.2 = before ++ event :: after → Fits first before event) ∧
      (∀ thread state, .returned thread (.request .read) (.ok state) ∈ result.2 →
        state ≠ .indeterminate) ∧
      (ShutDown result.2 → levels result.1.world = (.low, .high)) := by
  have hsound : Sound pair hw levels inOrder first _ _ :=
    (sound_opened name ⟨horder, hlevels⟩).run hreliable schedule
  rw [List.nil_append] at hsound
  refine ⟨fun before event after h => hsound.fits h, fun thread state hmem => ?_, fun hshut => ?_⟩
  · obtain ⟨before, after, hsplit⟩ := List.append_of_mem hmem
    obtain ⟨earlier, since, -, -, rfl⟩ := (hsound.fits hsplit).read thread state rfl
    exact target_ne_indeterminate _
  · cases hsound.condition with
    | free _ _ _ hopen => exact absurd hshut hopen
    | busy _ _ _ _ hopen => exact absurd hshut hopen
    | closed _ hheld _ => exact hheld

theorem no_half_driven_pair_memory :
    let reset : MemoryLine := ⟨"reset-line", .activeHigh⟩
    let bootSelect : MemoryLine := ⟨"boot-select-line", .activeHigh⟩
    let bank : MemoryBank :=
      { MemoryBank.empty with
        lines := [("reset-line", ⟨.high, .activeHigh, true⟩),
          ("boot-select-line", ⟨.low, .activeHigh, true⟩)] }
    let schedule := [
      .begin 0 (.request (.write .hold)), .begin 1 (.request .read),
      .advance 0, .advance 0, .advance 1, .advance 0, .advance 0,
      .advance 1, .advance 1, .advance 1, .advance 1, .advance 1,
      .begin 2 .shutdown, .advance 2, .advance 2, .advance 2, .advance 2]
    let history := [
      .began 0 (.request (.write .hold)), .began 1 (.request .read), .locked 0,
      .called 0 (.set reset .low), .called 0 (.set bootSelect .high),
      .unlocked 0 (.drive .hold) (.ok ()), .locked 1, .called 1 (.get reset),
      .called 1 (.get bootSelect), .unlocked 1 .classify (.ok .heldInReset),
      .returned 1 (.request .read) (.ok .heldInReset), .began 2 .shutdown, .locked 2,
      .called 2 (.set reset .low), .called 2 (.set bootSelect .high),
      .unlocked 2 .surrender (.ok (⟨reset, bootSelect⟩, .ok ()))]
    let result := (opened "x8h7_reset" ⟨reset, bootSelect⟩ bank).run memoryHardware schedule
    result.2 = history ∧
      (∀ before event after, history = before ++ event :: after → Fits .release before event) ∧
      result.1.world.levels ⟨reset, bootSelect⟩ = (.low, .high) := by
  intro reset bootSelect bank schedule history result
  have hreliable : LinePair.Reliable ⟨reset, bootSelect⟩ memoryHardware _ _ :=
    reliable_memory (by decide)
  have horder : bank.Knows ⟨reset, bootSelect⟩ := ⟨rfl, rfl⟩
  have hhistory : result.2 = history := rfl
  have hshut : ShutDown history := ⟨2, _, List.mem_of_getLast? rfl⟩
  obtain ⟨hfits, -, hheld⟩ :=
    no_half_driven_pair hreliable .release horder rfl "x8h7_reset" schedule
  exact ⟨hhistory, fun before event after h => hfits before event after (hhistory.trans h),
    hheld (hhistory ▸ hshut)⟩

end Shared

end CoprocReset
