import CoprocReset.Failure
import CoprocReset.Log

/-!
# Actions

An action works on a world and comes back with an outcome, the world after it and what it
logged. There are three outcomes: a value, a failure that the caller can handle, and a crash that
unwinds through every caller on its way. `attempt` turns a failure into a value and lets a crash
pass; `contain` turns a crash into a failure, as the border of a separate task does.

Actions form a lawful monad. A sequence goes on only after a value, and the log of a sequence is
the logs of its parts one after the other (`bind_done`, `bind_failed`, `bind_crashed`).
-/

namespace CoprocReset

/-- How an action ends. -/
inductive Outcome (α : Type) where
  | done (value : α)
  | failed (failure : Failure)
  | crashed (message : String)
  deriving Repr

namespace Outcome

/-- The outcome with its value replaced. -/
def map {α β : Type} (f : α → β) : Outcome α → Outcome β
  | .done value => .done (f value)
  | .failed failure => .failed failure
  | .crashed message => .crashed message

/-- The outcome that a result stands for. -/
def ofExcept {α : Type} : Except Failure α → Outcome α
  | .ok value => .done value
  | .error failure => .failed failure

end Outcome

/-- What an action comes back with. -/
structure Run (σ α : Type) where
  outcome : Outcome α
  world : σ
  log : Log

/-- A step on a world of type `σ`. -/
def Action (σ α : Type) := σ → Run σ α

namespace Action

variable {σ τ α β : Type}

/-- An action that does nothing but come back with a value. -/
def done (value : α) : Action σ α := fun world => ⟨.done value, world, []⟩

/-- The first action, and after its value the second. -/
def andThen (first : Action σ α) (next : α → Action σ β) : Action σ β := fun world =>
  match first world with
  | ⟨.done value, middle, log⟩ =>
    let second := next value middle
    ⟨second.outcome, second.world, log ++ second.log⟩
  | ⟨.failed failure, middle, log⟩ => ⟨.failed failure, middle, log⟩
  | ⟨.crashed message, middle, log⟩ => ⟨.crashed message, middle, log⟩

instance : Monad (Action σ) where
  pure := done
  bind := andThen

@[simp] theorem pure_apply (value : α) (world : σ) :
    (pure value : Action σ α) world = ⟨.done value, world, []⟩ := rfl

theorem bind_apply (first : Action σ α) (next : α → Action σ β) (world : σ) :
    (first >>= next) world = andThen first next world := rfl

theorem bind_done {first : Action σ α} {next : α → Action σ β} {world middle : σ} {value : α}
    {log : Log} (h : first world = ⟨.done value, middle, log⟩) :
    (first >>= next) world =
      ⟨(next value middle).outcome, (next value middle).world, log ++ (next value middle).log⟩ := by
  simp [bind_apply, andThen, h]

theorem bind_failed {first : Action σ α} {next : α → Action σ β} {world middle : σ}
    {failure : Failure} {log : Log} (h : first world = ⟨.failed failure, middle, log⟩) :
    (first >>= next) world = ⟨.failed failure, middle, log⟩ := by
  simp [bind_apply, andThen, h]

theorem bind_crashed {first : Action σ α} {next : α → Action σ β} {world middle : σ}
    {message : String} {log : Log} (h : first world = ⟨.crashed message, middle, log⟩) :
    (first >>= next) world = ⟨.crashed message, middle, log⟩ := by
  simp [bind_apply, andThen, h]

theorem andThen_done (x : Action σ α) : andThen x done = x := by
  funext world
  rcases h : x world with ⟨_ | _ | _, _, _⟩ <;> simp [andThen, done, h]

theorem done_andThen (value : α) (next : α → Action σ β) :
    andThen (done value) next = next value := by
  funext world
  simp [andThen, done]

theorem andThen_assoc {γ : Type} (x : Action σ α) (f : α → Action σ β) (g : β → Action σ γ) :
    andThen (andThen x f) g = andThen x fun value => andThen (f value) g := by
  funext world
  rcases h : x world with ⟨value | _ | _, middle, _⟩
  · rcases h' : f value middle with ⟨_ | _ | _, _, _⟩ <;> simp [andThen, h, h']
  · simp [andThen, h]
  · simp [andThen, h]

instance : LawfulMonad (Action σ) :=
  LawfulMonad.mk' (Action σ) andThen_done done_andThen andThen_assoc

/-- An action that fails. -/
def fail (failure : Failure) : Action σ α := fun world => ⟨.failed failure, world, []⟩

/-- An action that crashes. -/
def crash (message : String) : Action σ α := fun world => ⟨.crashed message, world, []⟩

/-- An action that ends as the outcome says. -/
def ofOutcome (outcome : Outcome α) : Action σ α := fun world => ⟨outcome, world, []⟩

/-- An action that comes back with the value of a result, or fails with its failure. -/
def ofExcept (result : Except Failure α) : Action σ α := ofOutcome (.ofExcept result)

/-- The world as it is. -/
def world : Action σ σ := fun world => ⟨.done world, world, []⟩

/-- An action that changes the world. -/
def update (f : σ → σ) : Action σ Unit := fun world => ⟨.done (), f world, []⟩

/-- An action that makes one entry in the log. -/
def note (severity : Severity) (text : String) : Action σ Unit := fun world =>
  ⟨.done (), world, [⟨severity, text⟩]⟩

/-- An action that logs an error. -/
def noteError (text : String) : Action σ Unit := note .error text

/-- An action that logs a warning. -/
def noteWarn (text : String) : Action σ Unit := note .warn text

/-- An action that logs what happens. -/
def noteInfo (text : String) : Action σ Unit := note .info text

/-- The action with a failure handed over as a value. -/
def attempt (action : Action σ α) : Action σ (Except Failure α) := fun world =>
  let run := action world
  ⟨match run.outcome with
    | .done value => .done (.ok value)
    | .failed failure => .done (.error failure)
    | .crashed message => .crashed message,
   run.world, run.log⟩

/-- The action with a crash turned into the failure that its message stands for. -/
def contain (died : String → Failure) (action : Action σ α) : Action σ α := fun world =>
  let run := action world
  ⟨match run.outcome with
    | .done value => .done value
    | .failed failure => .failed failure
    | .crashed message => .failed (died message),
   run.world, run.log⟩

end Action

/-- A part of a world that can be looked at and replaced. -/
structure Lens (σ τ : Type) where
  get : σ → τ
  set : τ → σ → σ
  get_set : ∀ part whole, get (set part whole) = part := by intros; rfl
  set_get : ∀ whole, set (get whole) whole = whole := by intros; rfl
  set_set : ∀ first second whole, set second (set first whole) = set second whole := by
    intros; rfl

/-- The whole world as a part of itself. -/
def Lens.whole {σ : Type} : Lens σ σ where
  get := id
  set part _ := part

/-- The part of a part. -/
def Lens.comp {ρ σ τ : Type} (outer : Lens ρ σ) (inner : Lens σ τ) : Lens ρ τ where
  get world := inner.get (outer.get world)
  set part world := outer.set (inner.set part (outer.get world)) world
  get_set := by intros; simp [outer.get_set, inner.get_set]
  set_get := by intros; simp [outer.set_get, inner.set_get]
  set_set := by intros; simp [outer.get_set, outer.set_set, inner.set_set]

/-- The action on a part, as an action on the whole. -/
def Action.on {σ τ α : Type} (part : Lens σ τ) (action : Action τ α) : Action σ α := fun world =>
  let run := action (part.get world)
  ⟨run.outcome, part.set run.world world, run.log⟩

end CoprocReset
