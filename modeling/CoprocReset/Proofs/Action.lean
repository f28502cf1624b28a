import CoprocReset.Action

/-!
# Reasoning about actions

`Yields` says what an action leads to from a world: its result, a value or a failure, and the
world after it. A crash is left open, so a rule never asks whether one can happen; where none can,
the action is `Calm`, and `Delivers` says that there is none from a world. The rules follow the way
actions are put together, one for each way (`yields_bind`, `yields_attempt`, `yields_on`).

A calm action may run as a task of its own or not (`Calm.contain_eq`). What is left alone by every part
of an action is left alone by the whole of it, even if that crashes (`Steady`), and `CrashLeaves` says
what a crash leaves behind.
-/

namespace CoprocReset

/-- The first half of a world. -/
def Lens.first {σ τ : Type} : Lens (σ × τ) σ where
  get := Prod.fst
  set half world := (half, world.2)

/-- The second half of a world. -/
def Lens.second {σ τ : Type} : Lens (σ × τ) τ where
  get := Prod.snd
  set half world := (world.1, half)

namespace Outcome

variable {α : Type}

@[simp] theorem ofExcept_inj {result result' : Except Failure α} :
    ofExcept result = ofExcept result' ↔ result = result' := by
  cases result <;> cases result' <;> simp [ofExcept]

@[simp] theorem crashed_ne_ofExcept {message : String} {result : Except Failure α} :
    (crashed message : Outcome α) ≠ ofExcept result := by
  cases result <;> simp [ofExcept]

theorem answered_or_crashed (outcome : Outcome α) :
    (∃ answer, outcome = ofExcept answer) ∨ ∃ message, outcome = crashed message := by
  cases outcome with
  | done value => exact .inl ⟨.ok value, rfl⟩
  | failed failure => exact .inl ⟨.error failure, rfl⟩
  | crashed message => exact .inr ⟨message, rfl⟩

end Outcome

namespace Action

variable {σ τ α β : Type} {action : Action σ α} {world : σ} {post : Except Failure α → σ → Prop}

/-- Unless it crashes, the action leads to a result and a world with the property. -/
def Yields (action : Action σ α) (world : σ) (post : Except Failure α → σ → Prop) : Prop :=
  match (action world).outcome with
  | .done value => post (.ok value) (action world).world
  | .failed failure => post (.error failure) (action world).world
  | .crashed _ => True

theorem yields_of_forall (h : ∀ result later, post result later) : action.Yields world post := by
  unfold Yields
  split
  · exact h _ _
  · exact h _ _
  · trivial

/-- An action leads to the result and the world that it leads to. -/
theorem yields_of_run (h : ∀ result, (action world).outcome = .ofExcept result →
    post result (action world).world) : action.Yields world post := by
  unfold Yields
  split
  · next value hdone => exact h (.ok value) hdone
  · next failure hfailed => exact h (.error failure) hfailed
  · trivial

theorem Yields.mono {post' : Except Failure α → σ → Prop} (h : action.Yields world post)
    (himp : ∀ result later, post result later → post' result later) :
    action.Yields world post' := by
  unfold Yields at h ⊢
  split at h <;> simp_all

theorem Yields.and {post' : Except Failure α → σ → Prop} (h : action.Yields world post)
    (h' : action.Yields world post') :
    action.Yields world fun result later => post result later ∧ post' result later := by
  unfold Yields at *
  split <;> simp_all

theorem Yields.done {value : α} (h : action.Yields world post)
    (hdone : (action world).outcome = .done value) : post (.ok value) (action world).world := by
  simpa [Yields, hdone] using h

theorem Yields.failed {failure : Failure} (h : action.Yields world post)
    (hfailed : (action world).outcome = .failed failure) :
    post (.error failure) (action world).world := by
  simpa [Yields, hfailed] using h

/-- Unless it crashed, the run has a result, with the property. -/
theorem Yields.result (h : action.Yields world post)
    (hcalm : ∀ message, (action world).outcome ≠ .crashed message) :
    ∃ result, (action world).outcome = .ofExcept result ∧ post result (action world).world := by
  rcases hout : (action world).outcome with value | failure | message
  · exact ⟨.ok value, rfl, h.done hout⟩
  · exact ⟨.error failure, rfl, h.failed hout⟩
  · exact absurd hout (hcalm message)

/-- What holds whatever the result is holds after every run that did not crash. -/
theorem Yields.after {P : σ → Prop} (h : action.Yields world fun _ later => P later)
    (hcalm : ∀ message, (action world).outcome ≠ .crashed message) : P (action world).world := by
  unfold Yields at h
  split at h
  · exact h
  · exact h
  · next message hout => exact absurd hout (hcalm message)

@[simp] theorem yields_ofExcept (result : Except Failure α) :
    (ofExcept result : Action σ α).Yields world post ↔ post result world := by
  cases result <;> rfl

@[simp] theorem yields_world {post : Except Failure σ → σ → Prop} :
    Action.world.Yields world post ↔ post (.ok world) world := Iff.rfl

@[simp] theorem yields_update (f : σ → σ) {post : Except Failure Unit → σ → Prop} :
    (update f).Yields world post ↔ post (.ok ()) (f world) := Iff.rfl

@[simp] theorem yields_note (severity : Severity) (text : String)
    {post : Except Failure Unit → σ → Prop} :
    (note severity text : Action σ Unit).Yields world post ↔ post (.ok ()) world := Iff.rfl

@[simp] theorem yields_fail (failure : Failure) :
    (fail failure : Action σ α).Yields world post ↔ post (.error failure) world := Iff.rfl

@[simp] theorem yields_pure (value : α) :
    (pure value : Action σ α).Yields world post ↔ post (.ok value) world := Iff.rfl

theorem yields_bind (first : Action σ α) (next : α → Action σ β)
    {post : Except Failure β → σ → Prop} :
    (first >>= next).Yields world post ↔
      first.Yields world fun result later =>
        match result with
        | .ok value => (next value).Yields later post
        | .error failure => post (.error failure) later := by
  rcases h : first world with ⟨_ | _ | _, middle, log⟩ <;>
    simp [Yields, bind_apply, andThen, h]

theorem Yields.note_bind {severity : Severity} {text : String} {next : Unit → Action σ β}
    {post : Except Failure β → σ → Prop} (h : (next ()).Yields world post) :
    (note severity text >>= next).Yields world post :=
  (yields_bind _ _).2 h

theorem Yields.update_bind {f : σ → σ} {next : Unit → Action σ β}
    {post : Except Failure β → σ → Prop} (h : (next ()).Yields (f world) post) :
    (update f >>= next).Yields world post :=
  (yields_bind _ _).2 h

theorem yields_attempt {post : Except Failure (Except Failure α) → σ → Prop} :
    action.attempt.Yields world post ↔
      action.Yields world fun result later => post (.ok result) later := by
  rcases h : action world with ⟨_ | _ | _, middle, log⟩ <;> simp [Yields, attempt, h]

theorem yields_on {part : Lens σ τ} {inner : Action τ α} :
    (inner.on part).Yields world post ↔
      inner.Yields (part.get world) fun result later => post result (part.set later world) := by
  rcases h : inner (part.get world) with ⟨_ | _ | _, middle, log⟩ <;> simp [Yields, on, h]

/-- Looking at a part leaves the world as it is. -/
theorem Yields.look_bind {part : Lens σ τ} {next : τ → Action σ β}
    {post : Except Failure β → σ → Prop} (h : (next (part.get world)).Yields world post) :
    (Action.world.on part >>= next).Yields world post := by
  refine (yields_bind _ _).2 (yields_on.2 (yields_world.2 ?_))
  rw [part.set_get]
  exact h

theorem Yields.update_on_bind {part : Lens σ τ} {f : τ → τ} {next : Unit → Action σ β}
    {post : Except Failure β → σ → Prop}
    (h : (next ()).Yields (part.set (f (part.get world)) world) post) :
    ((update f).on part >>= next).Yields world post :=
  (yields_bind _ _).2 h

/-- A crash that is held back is a failure. -/
theorem Yields.contain {died : String → Failure} (h : action.Yields world post)
    (hdied : ∀ message later, post (.error (died message)) later) :
    (action.contain died).Yields world post := by
  rcases hrun : action world with ⟨_ | _ | _, middle, log⟩ <;>
    simp_all [Yields, Action.contain]

/-- The action leads to a result and a world with the property, and does not crash. -/
def Delivers (action : Action σ α) (world : σ) (post : Except Failure α → σ → Prop) : Prop :=
  ∃ result, (action world).outcome = .ofExcept result ∧ post result (action world).world

@[simp] theorem delivers_ofExcept (result : Except Failure α) :
    (ofExcept result : Action σ α).Delivers world post ↔ post result world := by
  constructor
  · rintro ⟨result', hresult, hpost⟩
    obtain rfl := Outcome.ofExcept_inj.1 hresult
    exact hpost
  · exact fun hpost => ⟨result, rfl, hpost⟩

@[simp] theorem delivers_pure (value : α) :
    (pure value : Action σ α).Delivers world post ↔ post (.ok value) world :=
  delivers_ofExcept (.ok value)

@[simp] theorem delivers_fail (failure : Failure) :
    (fail failure : Action σ α).Delivers world post ↔ post (.error failure) world :=
  delivers_ofExcept (.error failure)

@[simp] theorem delivers_note (severity : Severity) (text : String)
    {post : Except Failure Unit → σ → Prop} :
    (note severity text : Action σ Unit).Delivers world post ↔ post (.ok ()) world :=
  delivers_ofExcept (.ok ())

/-- A sequence delivers if after its first part, and a value, the second part does. -/
theorem Delivers.bind {first : Action σ α} {next : α → Action σ β}
    {post : Except Failure β → σ → Prop}
    (h : first.Delivers world fun result later =>
      match result with
      | .ok value => (next value).Delivers later post
      | .error failure => post (.error failure) later) :
    (first >>= next).Delivers world post := by
  obtain ⟨result, houtcome, hrest⟩ := h
  rcases hrun : first world with ⟨outcome, middle, log⟩
  rw [hrun] at houtcome hrest
  obtain rfl : outcome = .ofExcept result := houtcome
  cases result with
  | ok value => rwa [Delivers, bind_done hrun]
  | error failure =>
    rw [Delivers, bind_failed hrun]
    exact ⟨.error failure, rfl, hrest⟩

theorem Delivers.world_bind {next : σ → Action σ β} {post : Except Failure β → σ → Prop}
    (h : (next world).Delivers world post) : (Action.world >>= next).Delivers world post :=
  .bind ⟨.ok world, rfl, h⟩

theorem Delivers.update_bind {f : σ → σ} {next : Unit → Action σ β}
    {post : Except Failure β → σ → Prop} (h : (next ()).Delivers (f world) post) :
    (update f >>= next).Delivers world post :=
  .bind ⟨.ok (), rfl, h⟩

theorem Delivers.note_bind {severity : Severity} {text : String} {next : Unit → Action σ β}
    {post : Except Failure β → σ → Prop} (h : (next ()).Delivers world post) :
    (note severity text >>= next).Delivers world post :=
  .bind ⟨.ok (), rfl, h⟩

theorem Delivers.mono {post' : Except Failure α → σ → Prop} (h : action.Delivers world post)
    (himp : ∀ result later, post result later → post' result later) :
    action.Delivers world post' :=
  let ⟨result, houtcome, hpost⟩ := h
  ⟨result, houtcome, himp _ _ hpost⟩

/-- What is delivered also has what it yields. -/
theorem Delivers.and_yields {post' : Except Failure α → σ → Prop} (h : action.Delivers world post)
    (h' : action.Yields world post') :
    action.Delivers world fun result later => post result later ∧ post' result later := by
  obtain ⟨result, houtcome, hpost⟩ := h
  refine ⟨result, houtcome, hpost, ?_⟩
  cases result with
  | ok value => exact h'.done houtcome
  | error failure => exact h'.failed houtcome

theorem Delivers.attempt {post : Except Failure (Except Failure α) → σ → Prop}
    (h : action.Delivers world fun result later => post (.ok result) later) :
    action.attempt.Delivers world post := by
  obtain ⟨result, houtcome, hpost⟩ := h
  refine ⟨.ok result, ?_, hpost⟩
  rw [Action.attempt, houtcome]
  cases result <;> rfl

/-- What does not crash makes no difference to those who hold a crash back. -/
theorem Delivers.contain {died : String → Failure} (h : action.Delivers world post) :
    (action.contain died).Delivers world post := by
  obtain ⟨result, houtcome, hpost⟩ := h
  refine ⟨result, ?_, hpost⟩
  rw [Action.contain, houtcome]
  cases result <;> rfl

theorem Delivers.on {part : Lens σ τ} {inner : Action τ α}
    (h : inner.Delivers (part.get world) fun result later => post result (part.set later world)) :
    (inner.on part).Delivers world post :=
  h

/-- The attempt of an action that has a result is that result. -/
theorem attempt_answered {later : σ} {answer : Except Failure α} {log : Log}
    (h : action world = ⟨.ofExcept answer, later, log⟩) :
    action.attempt world = ⟨.done answer, later, log⟩ := by
  cases answer <;> simp [attempt, h, Outcome.ofExcept]

/-! ## Actions that do not crash -/

/-- The action never crashes. -/
def Calm (action : Action σ α) : Prop := ∀ world message, (action world).outcome ≠ .crashed message

theorem calm_pure (value : α) : (pure value : Action σ α).Calm := by
  intro world message
  simp

theorem calm_fail (failure : Failure) : (fail failure : Action σ α).Calm := by
  intro world message
  simp [fail]

theorem calm_ofExcept (result : Except Failure α) : (ofExcept result : Action σ α).Calm := by
  intro world message
  cases result <;> simp [ofExcept, ofOutcome, Outcome.ofExcept]

theorem calm_world : (Action.world : Action σ σ).Calm := by
  intro world message
  simp [Action.world]

theorem calm_update (f : σ → σ) : (update f).Calm := by
  intro world message
  simp [update]

theorem calm_note (severity : Severity) (text : String) :
    (note severity text : Action σ Unit).Calm := by
  intro world message
  simp [note]

theorem Calm.bind {first : Action σ α} {next : α → Action σ β} (hfirst : first.Calm)
    (hnext : ∀ value, (next value).Calm) : (first >>= next).Calm := by
  intro world message
  rcases h : first world with ⟨value | failure | text, middle, log⟩
  · simpa [bind_done h] using hnext value middle message
  · simp [bind_failed h]
  · exact absurd (congrArg Run.outcome h) (hfirst world text)

theorem Calm.attempt (h : action.Calm) : action.attempt.Calm := by
  intro world message
  have := h world
  rcases hrun : action world with ⟨_ | _ | _, middle, log⟩ <;> simp_all [Action.attempt]

theorem Calm.on {part : Lens τ σ} (h : action.Calm) : (action.on part).Calm :=
  fun world message => h (part.get world) message

/-- An action that does not crash has a result. -/
theorem Calm.result (h : action.Calm) (world : σ) :
    ∃ result later log, action world = ⟨.ofExcept result, later, log⟩ := by
  have := h world
  rcases hrun : action world with ⟨value | failure | message, later, log⟩
  · exact ⟨.ok value, later, log, rfl⟩
  · exact ⟨.error failure, later, log, rfl⟩
  · simp [hrun] at this

/-- Running as a task of its own makes no difference to an action that does not crash. -/
theorem Calm.contain_eq (h : action.Calm) (died : String → Failure) :
    action.contain died = action := by
  funext world
  have := h world
  rcases hrun : action world with ⟨_ | _ | _, middle, log⟩ <;> simp_all [contain]

/-! ## What actions leave alone -/

section Steady

variable {γ : Type} {f : σ → γ}

/-- However the action ends, that much of the world is as before. -/
def Steady (f : σ → γ) (action : Action σ α) : Prop := ∀ world, f (action world).world = f world

theorem steady_pure (value : α) : (pure value : Action σ α).Steady f := fun _ => rfl

theorem steady_fail (failure : Failure) : (fail failure : Action σ α).Steady f := fun _ => rfl

theorem steady_ofExcept (result : Except Failure α) : (ofExcept result : Action σ α).Steady f :=
  fun _ => rfl

theorem steady_note (severity : Severity) (text : String) :
    (note severity text : Action σ Unit).Steady f := fun _ => rfl

theorem steady_world : (Action.world : Action σ σ).Steady f := fun _ => rfl

theorem Steady.bind {first : Action σ α} {next : α → Action σ β} (hfirst : first.Steady f)
    (hnext : ∀ value, (next value).Steady f) : (first >>= next).Steady f := by
  intro world
  have hmiddle := hfirst world
  rcases h : first world with ⟨value | failure | message, middle, log⟩ <;> rw [h] at hmiddle
  · rw [bind_done h]
    exact (hnext value middle).trans hmiddle
  · rwa [bind_failed h]
  · rwa [bind_crashed h]

theorem Steady.attempt (h : action.Steady f) : action.attempt.Steady f := h

theorem Steady.contain {died : String → Failure} (h : action.Steady f) :
    (action.contain died).Steady f := h

theorem Steady.yields (h : action.Steady f) (world : σ) :
    action.Yields world fun _ later => f later = f world :=
  yields_of_run fun _ _ => h world

/-- An action on a part leaves alone what does not depend on that part. -/
theorem steady_on {part : Lens σ τ} (h : ∀ inner world, f (part.set inner world) = f world)
    (inner : Action τ α) : (inner.on part).Steady f := fun world => h _ world

end Steady

/-- If the action crashes, it leaves a world with the property. -/
def CrashLeaves (action : Action σ α) (world : σ) (P : σ → Prop) : Prop :=
  ∀ message, (action world).outcome = .crashed message → P (action world).world

section CrashLeaves

variable {P : σ → Prop}

/-- What holds after every result, and after a crash, holds after the action. -/
theorem CrashLeaves.always (hcrash : action.CrashLeaves world P)
    (h : action.Yields world fun _ later => P later) : P (action world).world := by
  unfold Yields at h
  split at h
  · exact h
  · exact h
  · next message hcrashed => exact hcrash message hcrashed

theorem Calm.crashLeaves (h : action.Calm) : action.CrashLeaves world P :=
  fun message hcrashed => absurd hcrashed (h world message)

theorem CrashLeaves.attempt (h : action.CrashLeaves world P) : action.attempt.CrashLeaves world P := by
  intro message hcrashed
  refine h message ?_
  rcases hrun : action world with ⟨_ | _ | _, later, log⟩ <;>
    simp [Action.attempt, hrun] at hcrashed ⊢
  exact hcrashed

/-- A sequence crashes where its first part does, or after it where the second does. -/
theorem CrashLeaves.bind {first : Action σ α} {next : α → Action σ β}
    (hfirst : first.CrashLeaves world P)
    (hnext : ∀ value, (next value).CrashLeaves (first world).world P) :
    (first >>= next).CrashLeaves world P := by
  intro message hcrashed
  rcases hrun : first world with ⟨value | failure | text, middle, log⟩
  · have hnext := hnext value
    rw [hrun] at hnext
    rw [bind_done hrun] at hcrashed ⊢
    exact hnext message hcrashed
  · rw [bind_failed hrun] at hcrashed
    cases hcrashed
  · have hfirst := hfirst text
    rw [hrun] at hfirst
    rw [bind_crashed hrun]
    exact hfirst rfl

theorem CrashLeaves.note_bind {severity : Severity} {text : String} {next : Unit → Action σ β}
    (h : (next ()).CrashLeaves world P) : (note severity text >>= next).CrashLeaves world P :=
  h

theorem CrashLeaves.update_bind {f : σ → σ} {next : Unit → Action σ β}
    (h : (next ()).CrashLeaves (f world) P) : (update f >>= next).CrashLeaves world P :=
  h

theorem CrashLeaves.world_bind {next : σ → Action σ β} (h : (next world).CrashLeaves world P) :
    (Action.world >>= next).CrashLeaves world P :=
  h

end CrashLeaves

/-! ## Actions on a part of a world -/

@[simp] theorem pure_on (part : Lens σ τ) (value : α) :
    (pure value : Action τ α).on part = pure value := by
  funext world
  simp [on, part.set_get]

theorem bind_on (part : Lens σ τ) (first : Action τ α) (next : α → Action τ β) :
    (first >>= next).on part = first.on part >>= fun value => (next value).on part := by
  funext world
  rcases h : first (part.get world) with ⟨_ | _ | _, middle, log⟩ <;>
    simp [on, bind_apply, andThen, h, part.get_set, part.set_set]

theorem note_on (part : Lens σ τ) (severity : Severity) (text : String) :
    (note severity text : Action τ Unit).on part = note severity text := by
  funext world
  simp [on, note, part.set_get]

theorem attempt_on (part : Lens σ τ) (inner : Action τ α) :
    inner.attempt.on part = (inner.on part).attempt := rfl

theorem ofExcept_on (part : Lens σ τ) (result : Except Failure α) :
    (ofExcept result : Action τ α).on part = ofExcept result := by
  funext world
  simp [on, ofExcept, ofOutcome, part.set_get]

/-- The value of an action on a part comes from that part, and only that part is changed. -/
theorem of_map_on {part : Lens σ τ} {inner : Action τ α} {f : α → β} {world : σ} {value : β}
    (h : ((inner.on part >>= fun value => pure (f value)) world).outcome = .done value) :
    ∃ origin, value = f origin ∧ (inner (part.get world)).outcome = .done origin ∧
      ((inner.on part >>= fun value => pure (f value)) world).world =
        part.set (inner (part.get world)).world world := by
  rcases hrun : inner (part.get world) with ⟨origin | _ | _, later, log⟩ <;>
    simp [on, bind_apply, andThen, hrun] at h ⊢
  exact h.symm

/-- With its values replaced an action does what it did before. -/
theorem map_apply (f : α → β) (action : Action σ α) (world : σ) :
    (f <$> action) world =
      ⟨(action world).outcome.map f, (action world).world, (action world).log⟩ := by
  rw [map_eq_pure_bind]
  rcases hrun : action world with ⟨_ | _ | _, middle, log⟩
  · simp [bind_done hrun, Outcome.map]
  · simp [bind_failed hrun, Outcome.map]
  · simp [bind_crashed hrun, Outcome.map]

theorem attempt_map (f : α → β) (action : Action σ α) :
    (f <$> action).attempt = Except.map f <$> action.attempt := by
  funext world
  rw [map_apply, attempt, map_apply, attempt]
  cases (action world).outcome <;> rfl

@[simp] theorem map_fail (f : α → β) (failure : Failure) :
    f <$> (fail failure : Action σ α) = fail failure := rfl

/-! ## What follows a failure -/

theorem fail_bind (failure : Failure) (next : α → Action σ β) :
    fail failure >>= next = fail failure := rfl

theorem attempt_bind_ofExcept (action : Action σ α) : action.attempt >>= ofExcept = action := by
  funext world
  rcases h : action world with ⟨_ | _ | _, middle, log⟩ <;>
    simp [attempt, bind_apply, andThen, ofExcept, ofOutcome, Outcome.ofExcept, h]

theorem attempt_bind_attempt (action : Action σ α) (next : Except Failure α → Action σ β) :
    (action.attempt >>= next).attempt = action.attempt >>= fun result => (next result).attempt := by
  funext world
  rcases h : action world with ⟨value | failure | _, middle, log⟩
  · rcases h' : next (.ok value) middle with ⟨_ | _ | _, _, _⟩ <;>
      simp [attempt, bind_apply, andThen, h, h']
  · rcases h' : next (.error failure) middle with ⟨_ | _ | _, _, _⟩ <;>
      simp [attempt, bind_apply, andThen, h, h']
  · simp [attempt, bind_apply, andThen, h]

end Action

end CoprocReset
