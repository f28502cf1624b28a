import CoprocReset.Action

/-!
# Scripts

A script is a finite tree of calls: it makes a call, looks at the answer, and goes on, until it
finishes with a value or an error. What the calls do is left open. `run` carries the calls out as
actions on a world, one after the other, and `exec` does so where the errors of the script are the
failures of the actions; a scheduler can as well take one call at a time and let
other scripts run in between, which is why the work under a lock and the requests of a client are
scripts. The type of the calls says what a script can do at most.

Scripts form a lawful monad, and `exec` is a homomorphism into actions (`exec_pure`,
`exec_bind`).
-/

namespace CoprocReset

universe u

/-- A program over calls with answers of any type, each of which may fail with an `ε`. -/
inductive Script (ε : Type) (Call : Type → Type u) (α : Type) : Type (max 1 u) where
  | finish (result : Except ε α)
  | call {β : Type} (request : Call β) (next : Except ε β → Script ε Call α)

namespace Script

variable {ε α β γ σ : Type} {Call : Type → Type u}

/-- The first script, and after its value the second. -/
def andThen : Script ε Call α → (α → Script ε Call β) → Script ε Call β
  | .finish (.ok value), f => f value
  | .finish (.error error), _ => .finish (.error error)
  | .call request next, f => .call request fun answer => (next answer).andThen f

instance : Monad (Script ε Call) where
  pure value := .finish (.ok value)
  bind := andThen

theorem andThen_pure (x : Script ε Call α) : andThen x (fun value => .finish (.ok value)) = x := by
  induction x with
  | finish result => cases result <;> rfl
  | call request next ih => simp only [andThen, ih]

theorem andThen_assoc (x : Script ε Call α) (f : α → Script ε Call β) (g : β → Script ε Call γ) :
    andThen (andThen x f) g = andThen x fun value => andThen (f value) g := by
  induction x with
  | finish result => cases result <;> rfl
  | call request next ih => simp only [andThen, ih]

instance : LawfulMonad (Script ε Call) :=
  LawfulMonad.mk' (Script ε Call) andThen_pure (fun _ _ => rfl) andThen_assoc

/-- The script of one call. -/
def ask (request : Call α) : Script ε Call α := .call request .finish

/-- The script that ends with an error. -/
def fail (error : ε) : Script ε Call α := .finish (.error error)

/-- The script with its result handed over as a value. -/
def attempt : Script ε Call α → Script ε Call (Except ε α)
  | .finish result => .finish (.ok result)
  | .call request next => .call request fun answer => (next answer).attempt

/-- The calls carried out one after the other, each with its result as a value. A crash ends the
script at once. -/
def run (perform : {β : Type} → Call β → Action σ (Except ε β)) :
    Script ε Call α → Action σ (Except ε α)
  | .finish result => pure result
  | .call request next => do
    let answer ← perform request
    (next answer).run perform

/-- The calls carried out one after the other, where failures are those of actions. -/
def exec (perform : {β : Type} → Call β → Action σ β) (script : Script Failure Call α) :
    Action σ α := do
  Action.ofExcept (← script.run fun request => (perform request).attempt)

@[simp] theorem run_pure (perform : {β : Type} → Call β → Action σ (Except ε β)) (value : α) :
    run perform (pure value : Script ε Call α) = pure (.ok value) := rfl

theorem run_bind (perform : {β : Type} → Call β → Action σ (Except ε β)) (x : Script ε Call α)
    (f : α → Script ε Call β) :
    run perform (x >>= f) = run perform x >>= fun
      | .ok value => run perform (f value)
      | .error error => pure (.error error) := by
  induction x with
  | finish result => cases result <;> rfl
  | call request next ih =>
    change (perform request >>= fun answer => run perform (next answer >>= f)) =
      (perform request >>= fun answer => run perform (next answer)) >>= _
    simp only [ih, bind_assoc]

@[simp] theorem exec_pure (perform : {β : Type} → Call β → Action σ β) (value : α) :
    exec perform (pure value : Script Failure Call α) = pure value := rfl

theorem exec_bind (perform : {β : Type} → Call β → Action σ β) (x : Script Failure Call α)
    (f : α → Script Failure Call β) :
    exec perform (x >>= f) = exec perform x >>= fun value => exec perform (f value) := by
  simp only [exec, run_bind, bind_assoc]
  congr 1
  funext result
  cases result <;> rfl

end Script

end CoprocReset
