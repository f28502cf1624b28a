import CoprocReset.Proofs.Controller.Shared

/-!
# What the threads see and say

The history of a shared controller tells which command was carried out last (`lastCommand`) and
what a thread has seen since it began its operation (`Saw`). `Fits` is what an event may be after
what was before it. Whatever the answers to its calls are, an operation returns what it saw
(`honest_script`).
-/

namespace CoprocReset

namespace Shared

variable {W L : Type} {α β : Type}

/-! ## What can be said of a history -/

/-- The command that was carried out when a thread gave the lock back. -/
def Event.command? : Event L → Option Command
  | .unlocked _ (.drive command) (.ok _) => some command
  | _ => none

/-- The last command that was carried out, the first one if there was none. -/
def lastCommand (first : Command) (history : List (Event L)) : Command :=
  history.foldl (fun command event => event.command?.getD command) first

/-- The lines have been taken away from the controller. -/
def ShutDown (history : List (Event L)) : Prop :=
  ∃ thread lines, .unlocked thread .surrender (.ok lines) ∈ history

/-- In the operation that it is in, the thread has looked at the lines, and the state that it saw is
that of the last command before. -/
def Saw (first : Command) (thread : Nat) (history : List (Event L)) (state : LogicalState) : Prop :=
  ∃ earlier since, history = earlier ++ .unlocked thread .classify (.ok state) :: since ∧
    (∀ {α : Type} (operation : Operation L α), .began thread operation ∉ since) ∧
    state = (lastCommand first earlier).target

/-- What an event may be after a history. -/
structure Fits (first : Command) (history : List (Event L)) (event : Event L) : Prop where
  /-- A look shows the state of the last command. -/
  look : ∀ thread state, event = .unlocked thread .classify (.ok state) →
    state = (lastCommand first history).target
  /-- What a thread is told was shown to it since it asked. -/
  read : ∀ thread state, event = .returned thread (.request .read) (.ok state) →
    Saw first thread history state
  content : ∀ thread text, event = .returned thread (.request .content) (.ok text) →
    ∃ state, Saw first thread history state ∧ text = toString state.code ++ "\n"
  /-- No line is touched after a shutdown. -/
  untouched : ∀ thread {β : Type} (request : LineCall L β), event = .called thread request →
    ¬ShutDown history

/-- The thread gives the lock back. -/
def Event.isUnlock : Event L → Bool
  | .unlocked .. => true
  | _ => false

variable {first : Command} {history : List (Event L)} {event : Event L} {thread : Nat}

theorem lastCommand_snoc (first : Command) (history : List (Event L)) (event : Event L) :
    lastCommand first (history ++ [event]) = event.command?.getD (lastCommand first history) := by
  simp [lastCommand]

theorem command?_eq_none (h : event.isUnlock = false) : event.command? = none := by
  cases event <;> first | rfl | cases h

theorem shutDown_snoc (h : event.isUnlock = false) :
    ShutDown (history ++ [event]) ↔ ShutDown history := by
  have hne (thread : Nat) (lines : LinePair L × Except Failure Unit) :
      .unlocked thread .surrender (.ok lines) ≠ event := by
    rintro rfl
    cases h
  simp [ShutDown, hne]

theorem not_shutDown_unlocked {stay : Section L β} {result : Except Failure β}
    (hkeeps : stay.keepsLines = true) (hopen : ¬ShutDown history) :
    ¬ShutDown (history ++ [.unlocked thread stay result]) := by
  rintro ⟨other, lines, hmem⟩
  rcases List.mem_append.1 hmem with hmem | hmem
  · exact hopen ⟨other, lines, hmem⟩
  · cases List.mem_singleton.1 hmem
    cases hkeeps

theorem Saw.snoc {state : LogicalState} (h : Saw first thread history state)
    (hevent : ∀ {α : Type} (operation : Operation L α), event ≠ .began thread operation) :
    Saw first thread (history ++ [event]) state := by
  obtain ⟨earlier, since, rfl, hsince, hstate⟩ := h
  refine ⟨earlier, since ++ [event], by simp, fun operation hmem => ?_, hstate⟩
  rcases List.mem_append.1 hmem with hmem | hmem
  · exact hsince operation hmem
  · exact hevent operation (List.mem_singleton.1 hmem).symm

/-! ## What a thread will say -/

/-- What is returned was seen, if the operation is to say what the lines show. -/
def Reported (seen : LogicalState → Prop) : Operation L α → α → Prop
  | .request .read, state => seen state
  | .request .content, text => ∃ state, seen state ∧ text = toString state.code ++ "\n"
  | _, _ => True

/-- The state that the answer to a call shows. -/
def Learned : ControllerCall L β → Except Failure β → LogicalState → Prop
  | .enter .classify, .ok state => fun other => other = state
  | _, _ => fun _ => False

/-- Whatever its calls are answered, the script will return what was seen by then. -/
def Honest (operation : Operation L α) : ControllerScript L α → (LogicalState → Prop) → Prop
  | .finish result, seen => ∀ value, result = .ok value → Reported seen operation value
  | .call request next, seen =>
    ∀ answer, Honest operation (next answer) fun state => seen state ∨ Learned request answer state

theorem Reported.mono {operation : Operation L α} {value : α} {seen seen' : LogicalState → Prop}
    (h : Reported seen operation value) (himp : ∀ state, seen state → seen' state) :
    Reported seen' operation value := by
  unfold Reported at *
  split at h
  · exact himp _ h
  · exact h.imp fun state hs => ⟨himp state hs.1, hs.2⟩
  · trivial

theorem Honest.mono {operation : Operation L α} {script : ControllerScript L α}
    {seen seen' : LogicalState → Prop} (h : Honest operation script seen)
    (himp : ∀ state, seen state → seen' state) : Honest operation script seen' := by
  induction script generalizing seen seen' with
  | finish result => exact fun value hvalue => (h value hvalue).mono himp
  | call request next ih =>
    exact fun answer => ih answer (h answer) fun state => Or.imp_left (himp state)

theorem honest_of_reported {operation : Operation L α}
    (h : ∀ seen value, Reported seen operation value) (script : ControllerScript L α)
    (seen : LogicalState → Prop) : Honest operation script seen := by
  induction script generalizing seen with
  | finish result => exact fun value _ => h seen value
  | call request next ih => exact fun answer => ih answer _

/-- The operations say what they saw. -/
theorem honest_script (name : String) (operation : Operation L α) (seen : LogicalState → Prop) :
    Honest operation (operation.script name) seen := by
  cases operation with
  | shutdown => exact honest_of_reported (by intros; trivial) _ _
  | request asked =>
    cases asked with
    | write | store => exact honest_of_reported (by intros; trivial) _ _
    | read =>
      rintro answer value rfl
      exact .inr rfl
    | content =>
      intro answer
      cases answer with
      | error failure => exact fun _ hvalue => by cases hvalue
      | ok state =>
        rintro value hvalue
        cases hvalue
        exact ⟨state, .inr rfl, rfl⟩

end Shared

end CoprocReset
