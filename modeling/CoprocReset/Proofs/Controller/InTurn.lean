import CoprocReset.Proofs.Controller.Shared
import CoprocReset.Proofs.Script

/-!
# Operations in turn

What a controller's users see if they wait for each other: one operation after the other is carried
out as a whole (`inTurn`). `asked` has the calls that a script makes on lines, up to one that crashes.
The outcome of a script, what it leaves and the calls it makes are its `Effect`; two scripts may be
taken for each other where their effects are the same (`SameEffect`).
-/

namespace CoprocReset

variable {W L α β : Type}

/-- A call on a line, whatever its answer is. -/
abbrev Asked (L : Type) := Σ β : Type, LineCall L β

/-- The calls that a script makes from a world, up to one that crashes. -/
def Hardware.asked (hw : Hardware W L) : LineScript L α → W → List (Asked L)
  | .finish _, _ => []
  | .call request next, world =>
    let run := hw.perform request world
    ⟨_, request⟩ ::
      match run.outcome with
      | .done answer => hw.asked (next (.ok answer)) run.world
      | .failed failure => hw.asked (next (.error failure)) run.world
      | .crashed _ => []

/-- The calls that a script makes in its stays under the lock, up to one that crashes. -/
def Controller.asked (hw : Hardware W L) : ControllerScript L α → W × Controller L → List (Asked L)
  | .finish _, _ => []
  | .call (.note _ _) next, state => Controller.asked hw (next (.ok ())) state
  | .call (.enter stay) next, state =>
    let run := Controller.enter hw stay state
    hw.asked (state.2.routine stay) state.1 ++
      match run.outcome with
      | .done answer => Controller.asked hw (next (.ok answer)) run.world
      | .failed failure => Controller.asked hw (next (.error failure)) run.world
      | .crashed _ => []

/-- The operation of a thread. -/
structure Turn (L : Type) where
  thread : Nat
  {α : Type}
  operation : Operation L α

namespace Shared

/-- How an operation ends. -/
def ending (thread : Nat) (operation : Operation L α) : Outcome α → Event L
  | .done value => .returned thread operation (.ok value)
  | .failed failure => .returned thread operation (.error failure)
  | .crashed _ => .crashed thread

/-- An operation is begun and makes calls. -/
def progress (thread : Nat) (operation : Operation L α) (made : List (Asked L)) : List (Event L) :=
  .began thread operation :: made.map fun call => .called thread call.2

/-- What happens in a turn: the operation is begun, makes its calls and ends. -/
def turnEvents (hw : Hardware W L) (turn : Turn L) (state : W × Controller L) : List (Event L) :=
  let script := turn.operation.script state.2.name
  progress turn.thread turn.operation (Controller.asked hw script state) ++
    [ending turn.thread turn.operation (Controller.exec hw script state).outcome]

/-- The operations carried out one at a time, each as a whole: what they leave, and what happens. -/
def inTurn (hw : Hardware W L) (state : W × Controller L) (turns : List (Turn L)) :
    (W × Controller L) × List (Event L) :=
  turns.foldl
    (fun past turn =>
      ((Controller.exec hw (turn.operation.script past.1.2.name) past.1).world,
        past.2 ++ turnEvents hw turn past.1))
    (state, [])

theorem inTurn_snoc (hw : Hardware W L) (state : W × Controller L) (turns : List (Turn L))
    (turn : Turn L) : inTurn hw state (turns ++ [turn]) =
      ((Controller.exec hw (turn.operation.script (inTurn hw state turns).1.2.name)
          (inTurn hw state turns).1).world,
        (inTurn hw state turns).2 ++ turnEvents hw turn (inTurn hw state turns).1) := by
  simp [inTurn]

end Shared

/-! ## Effects -/

/-- What a script comes to: its outcome, the world after it and the calls it has made. -/
structure Effect (L σ α : Type) where
  outcome : Outcome α
  world : σ
  calls : List (Asked L)

/-- The effect with calls that were made before. -/
def Effect.after {σ : Type} (made : List (Asked L)) (effect : Effect L σ α) : Effect L σ α :=
  { effect with calls := made ++ effect.calls }

@[simp] theorem Effect.after_after {σ : Type} (first second : List (Asked L))
    (effect : Effect L σ α) : (effect.after second).after first = effect.after (first ++ second) := by
  simp [Effect.after]

/-- The effect of a script of calls on lines. -/
def Hardware.effect (hw : Hardware W L) (script : LineScript L α) (world : W) : Effect L W α :=
  ⟨(hw.exec script world).outcome, (hw.exec script world).world, hw.asked script world⟩

/-- The effect of a script of stays. -/
def Controller.effect (hw : Hardware W L) (script : ControllerScript L α)
    (state : W × Controller L) : Effect L (W × Controller L) α :=
  ⟨(Controller.exec hw script state).outcome, (Controller.exec hw script state).world,
    Controller.asked hw script state⟩

section Effects

variable {hw : Hardware W L} {world later : W} {controller : Controller L}

theorem Hardware.effect_finish (result : Except Failure α) :
    hw.effect (.finish result) world = ⟨.ofExcept result, world, []⟩ := rfl

/-- After an answer a script goes on from there. -/
theorem Hardware.effect_answered {request : LineCall L β}
    (next : Except Failure β → LineScript L α) {answer : Except Failure β} {log : Log}
    (h : hw.perform request world = ⟨.ofExcept answer, later, log⟩) :
    hw.effect (.call request next) world = (hw.effect (next answer) later).after [⟨_, request⟩] := by
  obtain ⟨houtcome, hworld⟩ := Script.exec_call_answered hw.perform next h
  have hasked : hw.asked (.call request next) world =
      ⟨_, request⟩ :: hw.asked (next answer) later := by
    rw [Hardware.asked, h]
    cases answer <;> rfl
  simp only [Hardware.effect, Hardware.exec, Effect.after, houtcome, hworld, hasked,
    List.singleton_append]

/-- A crash ends a script. -/
theorem Hardware.effect_crashed {request : LineCall L β}
    (next : Except Failure β → LineScript L α) {message : String} {log : Log}
    (h : hw.perform request world = ⟨.crashed message, later, log⟩) :
    hw.effect (.call request next) world = ⟨.crashed message, later, [⟨_, request⟩]⟩ := by
  have hattempt : (hw.perform request).attempt world = ⟨.crashed message, later, log⟩ := by
    simp [Action.attempt, h]
  have hasked : hw.asked (.call request next) world = [⟨_, request⟩] := by
    rw [Hardware.asked, h]
  simp only [Hardware.effect, Hardware.exec, Script.exec_call, Action.bind_crashed hattempt, hasked]

theorem Controller.effect_finish (result : Except Failure α) (state : W × Controller L) :
    Controller.effect hw (.finish result) state = ⟨.ofExcept result, state, []⟩ := rfl

theorem Controller.effect_note {severity : Severity} {text : String}
    (next : Except Failure Unit → ControllerScript L α) (state : W × Controller L) :
    Controller.effect hw (.call (.note severity text) next) state =
      Controller.effect hw (next (.ok ())) state := by
  have hnote : Controller.perform hw (.note severity text) state =
      ⟨.ofExcept (.ok ()), state, [⟨severity, text⟩]⟩ := rfl
  obtain ⟨houtcome, hworld⟩ := Script.exec_call_answered (Controller.perform hw) next hnote
  simp only [Controller.effect, Controller.exec, houtcome, hworld, Controller.asked]

/-- After a stay a script goes on from what came of it. -/
theorem Controller.effect_answered {stay : Section L β}
    (next : Except Failure β → ControllerScript L α) {answer : Except Failure β}
    {made : List (Asked L)}
    (h : hw.effect (controller.routine stay) world = ⟨.ofExcept answer, later, made⟩) :
    Controller.effect hw (.call (.enter stay) next) (world, controller) =
      (Controller.effect hw (next answer) (later, controller.leave stay (.ofExcept answer))).after
        made := by
  obtain ⟨houtcome, hworld, hasked⟩ := Effect.mk.inj h
  have henter : Controller.perform hw (.enter stay) (world, controller) =
      ⟨.ofExcept answer, (later, controller.leave stay (.ofExcept answer)),
        (hw.exec (controller.routine stay) world).log⟩ := by
    rw [Controller.perform, Controller.enter_eq, houtcome, hworld]
  have hcalls : Controller.asked hw (.call (.enter stay) next) (world, controller) =
      made ++ Controller.asked hw (next answer)
        (later, controller.leave stay (.ofExcept answer)) := by
    rw [Controller.asked, show Controller.enter hw stay (world, controller) = _ from henter, hasked]
    cases answer <;> rfl
  obtain ⟨hdone, hleft⟩ := Script.exec_call_answered (Controller.perform hw) next henter
  simp only [Controller.effect, Controller.exec, Effect.after, hdone, hleft, hcalls]

/-- A crash under the lock ends a script. -/
theorem Controller.effect_crashed {stay : Section L β}
    (next : Except Failure β → ControllerScript L α) {message : String} {made : List (Asked L)}
    (h : hw.effect (controller.routine stay) world = ⟨.crashed message, later, made⟩) :
    Controller.effect hw (.call (.enter stay) next) (world, controller) =
      ⟨.crashed message, (later, controller.leave stay (.crashed message)), made⟩ := by
  obtain ⟨houtcome, hworld, hasked⟩ := Effect.mk.inj h
  have henter : Controller.enter hw stay (world, controller) =
      ⟨.crashed message, (later, controller.leave stay (.crashed message)),
        (hw.exec (controller.routine stay) world).log⟩ := by
    rw [Controller.enter_eq, houtcome, hworld]
  have hattempt : (Controller.perform hw (.enter stay)).attempt (world, controller) =
      ⟨.crashed message, (later, controller.leave stay (.crashed message)),
        (hw.exec (controller.routine stay) world).log⟩ := by
    simp [Action.attempt, Controller.perform, henter]
  have hcalls : Controller.asked hw (.call (.enter stay) next) (world, controller) = made := by
    rw [Controller.asked, henter, hasked, List.append_nil]
  simp only [Controller.effect, Controller.exec, Script.exec_call, Action.bind_crashed hattempt,
    hcalls]

end Effects

/-! ## How far an operation is -/

section Operations

variable {hw : Hardware W L}

/-- Nothing is left of an operation but entries in the log and its result. -/
inductive Settled (result : Except Failure α) : ControllerScript L α → Prop
  | finish : Settled result (.finish result)
  | note {severity : Severity} {text : String} {next : Except Failure Unit → ControllerScript L α}
    (h : Settled result (next (.ok ()))) : Settled result (.call (.note severity text) next)

/-- The scripts come to the same wherever they are carried out. -/
def SameEffect (hw : Hardware W L) (script script' : ControllerScript L α) : Prop :=
  ∀ state, Controller.effect hw script state = Controller.effect hw script' state

/-- An operation is settled after one more stay, or after two, where the first is only to find out
whether the lines are there and could as well be left out. -/
inductive Pending (hw : Hardware W L) : ControllerScript L α → Prop
  | last {β : Type} {stay : Section L β} {next : Except Failure β → ControllerScript L α}
    (h : ∀ answer, ∃ result, Settled result (next answer)) : Pending hw (.call (.enter stay) next)
  | checks {next : Except Failure Unit → ControllerScript L α}
    (hfailed : ∀ failure, ∃ result, Settled result (next (.error failure)))
    (hready : Pending hw (next (.ok ())))
    (hsame : SameEffect hw (next (.ok ())) (.call (.enter .ready) next)) :
    Pending hw (.call (.enter .ready) next)

theorem Settled.effect {result : Except Failure α} {script : ControllerScript L α}
    (h : Settled result script) (state : W × Controller L) :
    Controller.effect hw script state = ⟨.ofExcept result, state, []⟩ := by
  induction h with
  | finish => rfl
  | note h ih => rw [Controller.effect_note, ih]

/-- A stay finds out itself whether the lines are there, so it makes no difference to ask first. -/
theorem sameEffect_ready {stay : Section L β} {next : Except Failure Unit → ControllerScript L α}
    {next' : Except Failure β → ControllerScript L α}
    (hready : next (.ok ()) = .call (.enter stay) next')
    (hfailed : ∀ failure, next (.error failure) = next' (.error failure)) :
    SameEffect hw (.call (.enter stay) next') (.call (.enter .ready) next) := by
  rintro ⟨world, name, pair | _ | _⟩
  case holding =>
    have hroutine : hw.effect (Controller.routine ⟨name, .holding pair⟩ .ready) world =
        ⟨.ofExcept (.ok ()), world, []⟩ := rfl
    rw [← hready, Controller.effect_answered next hroutine]
    rfl
  case vacant =>
    let failure := (⟨name, .vacant⟩ : Controller L).notReady
    have hroutine {γ : Type} (stay : Section L γ) :
        hw.effect (Controller.routine ⟨name, .vacant⟩ stay) world =
          ⟨.ofExcept (.error failure), world, []⟩ := rfl
    rw [Controller.effect_answered next' (hroutine stay),
      Controller.effect_answered next (hroutine .ready), hfailed]
    rfl
  case poisoned =>
    let failure := (⟨name, .poisoned⟩ : Controller L).lockPoisoned
    have hroutine {γ : Type} (stay : Section L γ) :
        hw.effect (Controller.routine ⟨name, .poisoned⟩ stay) world =
          ⟨.ofExcept (.error failure), world, []⟩ := rfl
    rw [Controller.effect_answered next' (hroutine stay),
      Controller.effect_answered next (hroutine .ready), hfailed]
    rfl

/-- Every operation is pending when it begins. -/
theorem Operation.pending (operation : Operation L α) (name : String) :
    Pending hw (operation.script name) := by
  cases operation with
  | shutdown =>
    refine .last fun answer => ?_
    cases answer with
    | error failure => exact ⟨_, .finish⟩
    | ok handed =>
      obtain ⟨pair, forced⟩ := handed
      cases forced with
      | ok _ => exact ⟨.ok pair, .note .finish⟩
      | error failure => exact ⟨.ok pair, .note (.note .finish)⟩
  | request request =>
    cases request with
    | read => exact .last fun answer => ⟨answer, .finish⟩
    | content =>
      refine .last fun answer => ?_
      cases answer <;> exact ⟨_, .finish⟩
    | write command =>
      refine .last fun answer => ?_
      cases answer with
      | ok _ => exact ⟨_, .note .finish⟩
      | error failure => exact ⟨_, .finish⟩
    | store input =>
      simp only [Operation.script, Request.script, Controller.store]
      rcases Command.parse input with failure | command
      · refine .last fun answer => ?_
        cases answer with
        | ok _ => exact ⟨_, .note .finish⟩
        | error failure => exact ⟨_, .finish⟩
      · refine .checks (fun failure => ⟨_, .finish⟩) (.last fun answer => ?_)
          (sameEffect_ready rfl fun failure => rfl)
        cases answer with
        | ok _ => exact ⟨_, .note .finish⟩
        | error failure => exact ⟨_, .finish⟩

end Operations

end CoprocReset
