import CoprocReset.Proofs.Action
import CoprocReset.Script

/-!
# Reasoning about scripts

`Script.exec` is a homomorphism in every way a script is put together (`exec_ask`, `exec_fail`,
`exec_attempt`), so a program written as a script and one written as an action are compared part by
part. What every call of a script keeps, the script keeps (`exec_keeps`).

`Script.recording` writes the calls of a script down as they are answered. The record is kept beside
the world and does not disturb it (`exec_recording`).
-/

namespace CoprocReset

universe u

namespace Script

variable {σ τ α β : Type} {Call : Type → Type u}
  (perform : {β : Type} → Call β → Action σ β)

@[simp] theorem exec_finish (result : Except Failure α) :
    exec perform (.finish result : Script Failure Call α) = Action.ofExcept result := rfl

theorem exec_call (request : Call β) (next : Except Failure β → Script Failure Call α) :
    exec perform (.call request next) =
      (perform request).attempt >>= fun answer => exec perform (next answer) := by
  simp only [exec, run, bind_assoc]

/-- Once its first call is answered, a script goes on from the answer. -/
theorem exec_call_answered {request : Call β} (next : Except Failure β → Script Failure Call α)
    {world later : σ} {answer : Except Failure β} {log : Log}
    (h : perform request world = ⟨.ofExcept answer, later, log⟩) :
    (exec perform (.call request next) world).outcome =
        (exec perform (next answer) later).outcome ∧
      (exec perform (.call request next) world).world =
        (exec perform (next answer) later).world := by
  rw [exec_call, Action.bind_done (Action.attempt_answered h)]
  exact ⟨rfl, rfl⟩

@[simp] theorem exec_ask (request : Call β) : exec perform (ask request) = perform request := by
  rw [ask, exec_call]
  exact Action.attempt_bind_ofExcept _

@[simp] theorem exec_fail (failure : Failure) :
    exec perform (fail failure : Script Failure Call α) = Action.fail failure := rfl

theorem fail_bind (failure : Failure) (next : α → Script Failure Call β) :
    fail failure >>= next = fail failure := rfl

@[simp] theorem exec_attempt (script : Script Failure Call α) :
    exec perform script.attempt = (exec perform script).attempt := by
  induction script with
  | finish result => cases result <;> rfl
  | call request next ih =>
    simp only [attempt, exec_call, ih, Action.attempt_bind_attempt]

/-- Calls on a part of a world make a script on that part. -/
theorem exec_on (part : Lens τ σ) (script : Script Failure Call α) :
    exec (fun request => (perform request).on part) script = (exec perform script).on part := by
  induction script with
  | finish result => rw [exec_finish, exec_finish, Action.ofExcept_on]
  | call request next ih => simp only [exec_call, ih, Action.bind_on, Action.attempt_on]

theorem calm_exec (h : ∀ {β : Type} (request : Call β), (perform request).Calm)
    (script : Script Failure Call α) : (exec perform script).Calm := by
  induction script with
  | finish result => exact Action.calm_ofExcept result
  | call request next ih =>
    rw [exec_call]
    exact (h request).attempt.bind ih

/-- What every call leaves alone, a script leaves alone. -/
theorem steady_exec {γ : Type} {f : σ → γ} (h : ∀ {β : Type} (request : Call β),
    (perform request).Steady f) (script : Script Failure Call α) :
    (exec perform script).Steady f := by
  induction script with
  | finish result => exact Action.steady_ofExcept result
  | call request next ih =>
    rw [exec_call]
    exact (h request).attempt.bind ih

/-- A script delivers if its first call has an answer after which the rest delivers. -/
theorem delivers_call {request : Call β} {next : Except Failure β → Script Failure Call α}
    {world : σ} {post : Except Failure α → σ → Prop} :
    (exec perform (.call request next)).Delivers world post ↔
      ∃ answer, (perform request world).outcome = .ofExcept answer ∧
        (exec perform (next answer)).Delivers (perform request world).world post := by
  rcases h : perform request world with ⟨outcome, middle, log⟩
  obtain ⟨answer, rfl⟩ | ⟨message, rfl⟩ := outcome.answered_or_crashed
  · obtain ⟨houtcome, hworld⟩ := exec_call_answered perform next h
    rw [Action.Delivers, houtcome, hworld]
    simp only [Outcome.ofExcept_inj, exists_eq_left']
    rfl
  · have hrun : (perform request).attempt world = ⟨.crashed message, middle, log⟩ := by
      simp [Action.attempt, h]
    rw [exec_call, Action.Delivers, Action.bind_crashed hrun]
    simp

theorem delivers_call_of_done {request : Call β} {next : Except Failure β → Script Failure Call α}
    {world : σ} {post : Except Failure α → σ → Prop} {value : β}
    (h : (perform request world).outcome = .done value)
    (hrest : (exec perform (next (.ok value))).Delivers (perform request world).world post) :
    (exec perform (.call request next)).Delivers world post :=
  (delivers_call perform).2 ⟨.ok value, h, hrest⟩

/-- Every call that the script may come to, whatever the answers before it, is allowed. -/
def All {ε : Type} (allowed : {β : Type} → Call β → Prop) : Script ε Call α → Prop
  | .finish _ => True
  | .call request next => allowed request ∧ ∀ answer, (next answer).All allowed

section All

variable {ε : Type} {allowed : {β : Type} → Call β → Prop}

@[simp] theorem all_pure (value : α) : (pure value : Script ε Call α).All allowed := trivial

@[simp] theorem all_fail (error : ε) : (fail error : Script ε Call α).All allowed := trivial

@[simp] theorem all_ask (request : Call β) :
    (ask request : Script ε Call β).All allowed ↔ allowed request := by
  simp [ask, All]

theorem all_of_forall (h : ∀ {β : Type} (request : Call β), allowed request)
    (script : Script ε Call α) : script.All allowed := by
  induction script with
  | finish result => trivial
  | call request next ih => exact ⟨h request, ih⟩

theorem All.bind {x : Script ε Call α} {f : α → Script ε Call β} (hx : x.All allowed)
    (hf : ∀ value, (f value).All allowed) : (x >>= f).All allowed := by
  induction x with
  | finish result =>
    cases result with
    | ok value => exact hf value
    | error error => trivial
  | call request next ih => exact ⟨hx.1, fun answer => ih answer (hx.2 answer)⟩

theorem All.attempt {script : Script ε Call α} (h : script.All allowed) :
    script.attempt.All allowed := by
  induction script with
  | finish result => trivial
  | call request next ih => exact ⟨h.1, fun answer => ih answer (h.2 answer)⟩

end All

/-- What every allowed call keeps, a script of allowed calls keeps. -/
theorem exec_keeps_of_all {I : σ → Prop} {allowed : {β : Type} → Call β → Prop}
    (h : ∀ {β : Type} (request : Call β) (world : σ), allowed request → I world →
      (perform request).Yields world fun _ later => I later)
    {script : Script Failure Call α} (hall : script.All allowed) {world : σ} (hI : I world) :
    (exec perform script).Yields world fun _ later => I later := by
  induction script generalizing world with
  | finish result => simpa using hI
  | call request next ih =>
    rw [exec_call, Action.yields_bind, Action.yields_attempt]
    exact (h request world hall.1 hI).mono fun result later hl => ih result (hall.2 result) hl

/-- What every call keeps, a script keeps. -/
theorem exec_keeps {I : σ → Prop}
    (h : ∀ {β : Type} (request : Call β) (world : σ), I world →
      (perform request).Yields world fun _ later => I later)
    (script : Script Failure Call α) {world : σ} (hI : I world) :
    (exec perform script).Yields world fun _ later => I later :=
  exec_keeps_of_all _ (fun request world _ => h request world)
    (all_of_forall (fun _ => trivial) script) hI

/-- Whatever the answers to its calls are, the script ends with a value. -/
def NeverFails {ε : Type} : Script ε Call α → Prop
  | .finish result => ∃ value, result = .ok value
  | .call _ next => ∀ answer, (next answer).NeverFails

theorem neverFails_attempt {ε : Type} (script : Script ε Call α) : script.attempt.NeverFails := by
  induction script with
  | finish result => exact ⟨result, rfl⟩
  | call request next ih => exact ih

theorem NeverFails.bind {ε : Type} {x : Script ε Call α} {f : α → Script ε Call β}
    (hx : x.NeverFails) (hf : ∀ value, (f value).NeverFails) : (x >>= f).NeverFails := by
  induction x with
  | finish result =>
    obtain ⟨value, rfl⟩ := hx
    exact hf value
  | call request next ih => exact fun answer => ih answer (hx answer)

/-! ## Records -/

variable {E : Type} (entry : {β : Type} → Call β → Except Failure β → List E)

/-- A call with what there is to record of it, which is nothing if it crashes. -/
def recording (request : Call β) : Action (σ × List E) β := fun (world, record) =>
  let run := perform request world
  let entries :=
    match run.outcome with
    | .done value => entry request (.ok value)
    | .failed failure => entry request (.error failure)
    | .crashed _ => []
  ⟨run.outcome, (run.world, record ++ entries), run.log⟩

theorem yields_recording (request : Call β) (world : σ) (record : List E)
    {post : Except Failure β → σ × List E → Prop} :
    (recording perform entry request).Yields (world, record) post ↔
      (perform request).Yields world fun result later =>
        post result (later, record ++ entry request result) := by
  rcases h : perform request world with ⟨_ | _ | _, middle, log⟩ <;>
    simp [Action.Yields, recording, h]

/-- Without its record, a recorded script is the script. -/
theorem exec_recording (script : Script Failure Call α) (world : σ) (record : List E) :
    let run := exec (recording perform entry) script (world, record)
    (⟨run.outcome, run.world.1, run.log⟩ : Run σ α) = exec perform script world := by
  induction script generalizing world record with
  | finish result => cases result <;> rfl
  | call request next ih =>
    simp only [exec_call, Action.bind_apply, Action.andThen, Action.attempt, recording]
    rcases h : perform request world with ⟨value | failure | _, middle, log⟩
    · simp [← ih (.ok value) middle (record ++ entry request (.ok value))]
    · simp [← ih (.error failure) middle (record ++ entry request (.error failure))]
    · simp

end Script

end CoprocReset
