import CoprocReset.Proofs.Controller.Shared
import CoprocReset.Proofs.Line.Hardware

/-!
# A thread that nobody interrupts

If the scheduler lets one thread move until it returns, its operation comes to what
`Controller.exec` makes of it: the result is the same, and so are the world and the controller
afterwards (`run_alone`). Under the lock this holds by induction on the calls that are left
(`leads_inside`), outside by induction on the operation (`leads_outside`).
-/

namespace CoprocReset.Shared

variable {W L α β : Type} {hw : Hardware W L} {shared middle last : Shared W L} {thread : Nat}

/-- Left alone for some number of moves, the thread leads to the state, with these events. -/
inductive LeadsTo (hw : Hardware W L) (thread : Nat) :
    Shared W L → Shared W L → List (Event L) → Prop where
  | refl (shared : Shared W L) : LeadsTo hw thread shared shared []
  | cons {shared middle last : Shared W L} {events later : List (Event L)}
      (hmove : shared.move hw (.advance thread) = (middle, events))
      (hrest : LeadsTo hw thread middle last later) :
      LeadsTo hw thread shared last (events ++ later)

theorem LeadsTo.single {events : List (Event L)}
    (hmove : shared.move hw (.advance thread) = (last, events)) :
    LeadsTo hw thread shared last events := by
  simpa using LeadsTo.cons hmove (.refl last)

theorem LeadsTo.trans {events later : List (Event L)}
    (hfirst : LeadsTo hw thread shared middle events)
    (hrest : LeadsTo hw thread middle last later) :
    LeadsTo hw thread shared last (events ++ later) := by
  induction hfirst with
  | refl => exact hrest
  | cons hmove _ ih =>
    rw [List.append_assoc]
    exact .cons hmove (ih hrest)

theorem LeadsTo.run {events : List (Event L)} (h : LeadsTo hw thread shared last events) :
    ∃ moves, shared.run hw (List.replicate moves (.advance thread)) = (last, events) := by
  induction h with
  | refl => exact ⟨0, rfl⟩
  | cons hmove _ ih =>
    obtain ⟨moves, hrun⟩ := ih
    exact ⟨moves + 1, by simp [List.replicate_succ, Shared.run, hmove, hrun]⟩

/-- The state in which one thread, the world, the controller and the lock are as given. -/
def put (shared : Shared W L) (thread : Nat) (state : Thread L) (world : W)
    (controller : Controller L) (owner : Option Nat) : Shared W L :=
  { shared.setThread thread state with world := world, controller := controller, owner := owner }

@[simp] theorem put_world (state : Thread L) (world : W) (controller : Controller L)
    (owner : Option Nat) : (shared.put thread state world controller owner).world = world := rfl

@[simp] theorem put_controller (state : Thread L) (world : W) (controller : Controller L)
    (owner : Option Nat) :
    (shared.put thread state world controller owner).controller = controller := rfl

@[simp] theorem put_threads_self (shared : Shared W L) (thread : Nat) (state : Thread L)
    (world : W) (controller : Controller L) (owner : Option Nat) :
    (shared.put thread state world controller owner).threads thread = state :=
  if_pos rfl

@[simp] theorem put_put (first second : Thread L) (world world' : W)
    (controller controller' : Controller L) (owner owner' : Option Nat) :
    (shared.put thread first world controller owner).put thread second world' controller' owner' =
      shared.put thread second world' controller' owner' := by
  simp only [put, setThread, mk.injEq, true_and]
  funext other
  split <;> rfl

theorem put_self {state : Thread L} (hthread : shared.threads thread = state) (world : W)
    (controller : Controller L) :
    shared.put thread state world controller shared.owner =
      { shared with world := world, controller := controller } := by
  simp only [put, setThread, mk.injEq, true_and]
  funext other
  split
  · next h => rw [h, hthread]
  · rfl

/-- A stay ends as its routine does. -/
theorem leads_inside (hcalm : hw.Calm) {operation : Operation L α} {stay : Section L β}
    {rest : LineScript L β} {next : Except Failure β → ControllerScript L α}
    (hthread : shared.threads thread = .inside operation stay rest next) :
    ∃ result events, (hw.exec rest shared.world).outcome = .ofExcept result ∧
      LeadsTo hw thread shared
        (shared.put thread (.outside operation (next result)) (hw.exec rest shared.world).world
          (shared.controller.leave stay (.ofExcept result)) none) events := by
  induction rest generalizing shared with
  | finish result =>
    refine ⟨result, [.unlocked thread stay result], rfl, .single ?_⟩
    simp only [move, hthread]
    rfl
  | call request rest ih =>
    obtain ⟨answer, world, log, hperform⟩ := (hcalm.perform request).result shared.world
    obtain ⟨houtcome, hworld⟩ := Script.exec_call_answered hw.perform rest hperform
    obtain ⟨result, events, hresult, hrest⟩ :=
      ih answer (put_threads_self shared thread (.inside operation stay (rest answer) next) world
        shared.controller shared.owner)
    have hmove : shared.move hw (.advance thread) =
        (shared.put thread (.inside operation stay (rest answer) next) world shared.controller
          shared.owner, [.called thread request]) := by
      simp only [move, hthread, moveInside, hperform]
      cases answer <;> rfl
    rw [put_put, put_world, put_controller] at hrest
    refine ⟨result, [.called thread request] ++ events, houtcome.trans hresult, .cons hmove ?_⟩
    rwa [Hardware.exec, hworld]

/-- Outside the lock and with the lock free, an operation ends as its script does. -/
theorem leads_outside (hcalm : hw.Calm) {operation : Operation L α} {rest : ControllerScript L α}
    (hthread : shared.threads thread = .outside operation rest) (hfree : shared.owner = none) :
    ∃ result events,
      (Controller.exec hw rest (shared.world, shared.controller)).outcome = .ofExcept result ∧
      LeadsTo hw thread shared
        (shared.put thread .idle
          (Controller.exec hw rest (shared.world, shared.controller)).world.1
          (Controller.exec hw rest (shared.world, shared.controller)).world.2 none)
        (events ++ [.returned thread operation result]) := by
  induction rest generalizing shared with
  | finish result =>
    refine ⟨result, [], rfl, .single ?_⟩
    simp only [move, hthread, moveOutside, put]
    rw [← hfree]
    rfl
  | call request next ih =>
    -- In either case the first call is answered, and what is left is that of the answer.
    suffices h : ∃ answer world controller log events,
        Controller.perform hw request (shared.world, shared.controller) =
          ⟨.ofExcept answer, (world, controller), log⟩ ∧
        LeadsTo hw thread shared
          (shared.put thread (.outside operation (next answer)) world controller none) events by
      obtain ⟨answer, world, controller, log, events, hperform, hlead⟩ := h
      obtain ⟨houtcome, hworld⟩ := Script.exec_call_answered (Controller.perform hw) next hperform
      obtain ⟨result, later, hresult, hrest⟩ :=
        ih answer (put_threads_self shared thread (.outside operation (next answer)) world
          controller none) rfl
      rw [put_put, put_world, put_controller] at hrest
      refine ⟨result, events ++ later, houtcome.trans hresult, ?_⟩
      rw [List.append_assoc, Controller.exec, hworld]
      exact hlead.trans hrest
    cases request with
    | note severity text =>
      refine ⟨.ok (), shared.world, shared.controller, _, [], rfl, .single ?_⟩
      simp only [move, hthread, moveOutside, put]
      rw [← hfree]
      rfl
    | enter stay =>
      have hlock : shared.move hw (.advance thread) =
          (shared.put thread (.inside operation stay (shared.controller.routine stay) next)
            shared.world shared.controller (some thread), [.locked thread]) := by
        simp only [move, hthread, moveOutside, hfree]
        rfl
      obtain ⟨answer, events, houtcome, hrest⟩ :=
        leads_inside hcalm (put_threads_self shared thread
          (.inside operation stay (shared.controller.routine stay) next) shared.world
          shared.controller (some thread))
      rw [put_world] at houtcome
      rw [put_put, put_world, put_controller] at hrest
      refine ⟨answer, _, _, (hw.exec (shared.controller.routine stay) shared.world).log,
        [.locked thread] ++ events, ?_, .cons hlock hrest⟩
      rw [Controller.perform, Controller.enter_eq, houtcome]

/-- An operation that nobody interrupts comes to what its script does. -/
theorem run_alone (hcalm : hw.Calm) (hidle : shared.threads thread = .idle)
    (hfree : shared.owner = none) (operation : Operation L α) :
    ∃ moves result events,
      (Controller.exec hw (operation.script shared.controller.name)
        (shared.world, shared.controller)).outcome = .ofExcept result ∧
      shared.run hw (.begin thread operation :: List.replicate moves (.advance thread)) =
        ({ shared with
            world := (Controller.exec hw (operation.script shared.controller.name)
              (shared.world, shared.controller)).world.1
            controller := (Controller.exec hw (operation.script shared.controller.name)
              (shared.world, shared.controller)).world.2 },
          .began thread operation :: (events ++ [.returned thread operation result])) := by
  have hbegin : shared.move hw (.begin thread operation) =
      (shared.put thread (.outside operation (operation.script shared.controller.name))
        shared.world shared.controller none, [.began thread operation]) := by
    simp only [move, hidle, put]
    rw [← hfree]
    rfl
  obtain ⟨result, events, houtcome, hlead⟩ :=
    leads_outside hcalm (put_threads_self shared thread
      (.outside operation (operation.script shared.controller.name)) shared.world
      shared.controller none) rfl
  rw [put_put, put_world, put_controller] at hlead
  rw [put_world, put_controller] at houtcome
  obtain ⟨moves, hrun⟩ := hlead.run
  refine ⟨moves, result, events, houtcome, ?_⟩
  rw [run, hbegin]
  simp only [hrun]
  rw [← hfree, put_self hidle]
  rfl

end CoprocReset.Shared
