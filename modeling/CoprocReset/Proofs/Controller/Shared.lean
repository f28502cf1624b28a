import CoprocReset.Proofs.Action
import CoprocReset.Reset.Controller

/-!
# A controller shared by threads

Any number of threads use one controller. What a thread does is cut into the smallest moves there
are: it begins an operation, takes the lock, makes one call on a line, gives the lock back, or
returns. A scheduler picks whose move is next (`Shared.run`); a thread whose next move is to take a
lock that is taken waits. The operations are the scripts of the controller, and what is done under
the lock is the routine of a `Section`, so a stay that nobody interrupts is `Controller.enter`
(`enter_eq`).
-/

namespace CoprocReset

/-- What can be done with a controller, by anyone or by its owner. -/
inductive Operation (L : Type) : Type → Type 1 where
  | request {α : Type} (request : Request α) : Operation L α
  | shutdown : Operation L (LinePair L)

/-- The script of an operation on the controller of that name. -/
def Operation.script {L α : Type} (name : String) : Operation L α → ControllerScript L α
  | .request asked => asked.script name
  | .shutdown => Controller.shutdown name

namespace Controller

variable {L β : Type}

/-- What a stay under the lock is made of. It ends at once if there are no lines. -/
def routine (controller : Controller L) (stay : Section L β) : LineScript L β :=
  match controller.custody with
  | .poisoned => Script.fail controller.lockPoisoned
  | .vacant => Script.fail controller.notReady
  | .holding pair => stay.routine pair

/-- The controller after a stay. -/
def leave (controller : Controller L) (stay : Section L β) (outcome : Outcome β) : Controller L :=
  match controller.custody with
  | .holding pair => { controller with custody := stay.custodyAfter pair outcome }
  | _ => controller

/-- A stay is its routine, carried out without a pause. -/
theorem enter_eq {W : Type} (hw : Hardware W L) (stay : Section L β) (world : W)
    (controller : Controller L) :
    enter hw stay (world, controller) =
      ⟨(hw.exec (controller.routine stay) world).outcome,
        ((hw.exec (controller.routine stay) world).world,
          controller.leave stay (hw.exec (controller.routine stay) world).outcome),
        (hw.exec (controller.routine stay) world).log⟩ := by
  rcases controller with ⟨name, pair | _ | _⟩ <;> rfl

end Controller

/-- What a thread is at. -/
inductive Thread (L : Type) where
  | idle
  /-- In an operation, but not under the lock. -/
  | outside {α : Type} (operation : Operation L α) (rest : ControllerScript L α)
  /-- Under the lock, with the calls that are left of the stay, and what comes after it. -/
  | inside {α β : Type} (operation : Operation L α) (stay : Section L β) (rest : LineScript L β)
    (next : Except Failure β → ControllerScript L α)

/-- A controller, the world of its lines, its lock and the threads that use it. -/
structure Shared (W L : Type) where
  world : W
  controller : Controller L
  /-- The thread that has the lock. -/
  owner : Option Nat
  threads : Nat → Thread L

namespace Shared

/-- What the scheduler picks: a thread begins an operation, or makes its next move. -/
inductive Move (L : Type) where
  | begin (thread : Nat) {α : Type} (operation : Operation L α)
  | advance (thread : Nat)

/-- What has happened, in its order. -/
inductive Event (L : Type) where
  | began (thread : Nat) {α : Type} (operation : Operation L α)
  | locked (thread : Nat)
  | called (thread : Nat) {β : Type} (request : LineCall L β)
  | unlocked (thread : Nat) {β : Type} (stay : Section L β) (result : Except Failure β)
  | returned (thread : Nat) {α : Type} (operation : Operation L α) (result : Except Failure α)
  /-- A call crashed under the lock. -/
  | crashed (thread : Nat)

variable {W L : Type}

/-- What holds of every event and what was before it still does when one more event has it. -/
theorem splits_snoc {P : List (Event L) → Event L → Prop} {history : List (Event L)} {event : Event L}
    (h : ∀ {before event after}, history = before ++ event :: after → P before event)
    (hevent : P history event) {before after : List (Event L)} {event' : Event L}
    (heq : history ++ [event] = before ++ event' :: after) : P before event' := by
  rcases List.eq_nil_or_concat after with rfl | ⟨after, last, rfl⟩
  · obtain ⟨rfl, hlast⟩ := List.append_inj' heq rfl
    cases hlast
    exact hevent
  · rw [List.concat_eq_append, ← List.cons_append, ← List.append_assoc] at heq
    exact h (List.append_inj' heq rfl).1

/-- The lines of a controller, used by nobody yet. -/
def opened (name : String) (pair : LinePair L) (world : W) : Shared W L where
  world := world
  controller := .ofPair name pair
  owner := none
  threads _ := .idle

/-- Another state of one thread. -/
def setThread (shared : Shared W L) (thread : Nat) (state : Thread L) : Shared W L :=
  { shared with threads := fun other => if other = thread then state else shared.threads other }

@[simp] theorem threads_setThread (shared : Shared W L) (thread : Nat) (state : Thread L)
    (other : Nat) : (shared.setThread thread state).threads other =
      if other = thread then state else shared.threads other := rfl

/-- The thread is under the lock. -/
def IsInside : Thread L → Prop
  | .inside .. => True
  | _ => False

theorem isInside_of_eq {α β : Type} {state : Thread L} {operation : Operation L α}
    {stay : Section L β} {rest : LineScript L β} {next : Except Failure β → ControllerScript L α}
    (h : state = .inside operation stay rest next) : IsInside state :=
  h ▸ trivial

/-- The move of a thread under the lock. -/
def moveInside (hw : Hardware W L) (shared : Shared W L) (thread : Nat) {α β : Type}
    (operation : Operation L α) (stay : Section L β)
    (next : Except Failure β → ControllerScript L α) :
    LineScript L β → Shared W L × List (Event L)
  | .finish result =>
    ({ shared.setThread thread (.outside operation (next result)) with
        controller := shared.controller.leave stay (.ofExcept result)
        owner := none },
      [.unlocked thread stay result])
  | .call request rest =>
    let run := hw.perform request shared.world
    match run.outcome with
    | .done answer =>
      ({ shared.setThread thread (.inside operation stay (rest (.ok answer)) next) with
          world := run.world },
        [.called thread request])
    | .failed failure =>
      ({ shared.setThread thread (.inside operation stay (rest (.error failure)) next) with
          world := run.world },
        [.called thread request])
    | .crashed message =>
      ({ shared.setThread thread .idle with
          world := run.world
          controller := shared.controller.leave stay (.crashed message)
          owner := none },
        [.called thread request, .crashed thread])

/-- The move of a thread that is in an operation and not under the lock. -/
def moveOutside (shared : Shared W L) (thread : Nat) {α : Type} (operation : Operation L α) :
    ControllerScript L α → Shared W L × List (Event L)
  | .finish result => (shared.setThread thread .idle, [.returned thread operation result])
  | .call (.note _ _) next => (shared.setThread thread (.outside operation (next (.ok ()))), [])
  | .call (.enter stay) next =>
    match shared.owner with
    | some _ => (shared, [])
    | none =>
      ({ shared.setThread thread
          (.inside operation stay (shared.controller.routine stay) next) with
          owner := some thread },
        [.locked thread])

/-- What comes of a move. A thread begins an operation only when it is not in another one. -/
def move (hw : Hardware W L) (shared : Shared W L) : Move L → Shared W L × List (Event L)
  | .begin thread operation =>
    match shared.threads thread with
    | .idle =>
      (shared.setThread thread (.outside operation (operation.script shared.controller.name)),
        [.began thread operation])
    | _ => (shared, [])
  | .advance thread =>
    match shared.threads thread with
    | .idle => (shared, [])
    | .outside operation rest => shared.moveOutside thread operation rest
    | .inside operation stay rest next => shared.moveInside hw thread operation stay next rest

/-- What comes of the moves that a scheduler picks, and what happens on the way. -/
def run (hw : Hardware W L) (shared : Shared W L) :
    List (Move L) → Shared W L × List (Event L)
  | [] => (shared, [])
  | first :: rest =>
    let (next, events) := shared.move hw first
    let (last, later) := next.run hw rest
    (last, events ++ later)

end Shared

end CoprocReset
