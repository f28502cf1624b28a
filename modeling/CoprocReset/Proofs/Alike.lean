import CoprocReset.Proofs.Script

/-!
# Actions that are alike

Two actions on two worlds are `Alike` if they end in the same way, with one value, one failure or one
crash, and leave worlds with a property that may speak of both. There is one rule for each way actions
are put together, and a script is alike on two sides if each of its calls is (`Script.exec_alike`).
Where one side takes other steps than the other, `Delivers` on each side takes the place of the rules
(`Alike.of_delivers`).
-/

namespace CoprocReset

universe u

namespace Action

variable {σ τ α β : Type} {first : Action σ α} {second : Action τ α} {world : σ} {other : τ}
  {post : Outcome α → σ → τ → Prop}

/-- The actions end in the same way, and the end and the worlds after them have the property. -/
def Alike (first : Action σ α) (second : Action τ α) (world : σ) (other : τ)
    (post : Outcome α → σ → τ → Prop) : Prop :=
  (second other).outcome = (first world).outcome ∧
    post (first world).outcome (first world).world (second other).world

theorem Alike.mono {post' : Outcome α → σ → τ → Prop} (h : Alike first second world other post)
    (himp : ∀ outcome later later', post outcome later later' → post' outcome later later') :
    Alike first second world other post' :=
  ⟨h.1, himp _ _ _ h.2⟩

/-- What each side delivers is what they end with, if it is the same. -/
theorem Alike.of_delivers {result : Except Failure α} {P : σ → Prop} {Q : τ → Prop}
    (hfirst : first.Delivers world fun answer later => answer = result ∧ P later)
    (hsecond : second.Delivers other fun answer later => answer = result ∧ Q later)
    (h : ∀ later later', P later → Q later' → post (.ofExcept result) later later') :
    Alike first second world other post := by
  obtain ⟨answer, houtcome, hanswer, hlater⟩ := hfirst
  obtain ⟨answer', houtcome', hanswer', hlater'⟩ := hsecond
  rw [hanswer] at houtcome
  rw [hanswer'] at houtcome'
  refine ⟨houtcome'.trans houtcome.symm, ?_⟩
  rw [houtcome]
  exact h _ _ hlater hlater'

theorem alike_pure {value : α} (h : post (.done value) world other) :
    Alike (pure value) (pure value) world other post :=
  ⟨rfl, h⟩

theorem alike_fail {failure : Failure} (h : post (.failed failure) world other) :
    Alike (fail failure) (fail failure) world other post :=
  ⟨rfl, h⟩

theorem alike_ofExcept {result : Except Failure α} (h : post (.ofExcept result) world other) :
    Alike (ofExcept result) (ofExcept result) world other post :=
  ⟨rfl, h⟩

/-- What comes of a sequence after the outcome of its first part. -/
def Onward (next : α → Action σ β) (next' : α → Action τ β) (post : Outcome β → σ → τ → Prop) :
    Outcome α → σ → τ → Prop
  | .done value, later, later' => Alike (next value) (next' value) later later' post
  | .failed failure, later, later' => post (.failed failure) later later'
  | .crashed message, later, later' => post (.crashed message) later later'

theorem Alike.bind {next : α → Action σ β} {next' : α → Action τ β}
    {post : Outcome β → σ → τ → Prop}
    (h : Alike first second world other (Onward next next' post)) :
    Alike (first >>= next) (second >>= next') world other post := by
  obtain ⟨houtcome, hpost⟩ := h
  rcases hfirst : first world with ⟨outcome, later, log⟩
  rcases hsecond : second other with ⟨outcome', later', log'⟩
  rw [hfirst, hsecond] at houtcome
  rw [hfirst, hsecond] at hpost
  obtain rfl : outcome' = outcome := houtcome
  cases outcome' with
  | done value => rwa [Alike, bind_done hfirst, bind_done hsecond]
  | failed failure =>
    rw [Alike, bind_failed hfirst, bind_failed hsecond]
    exact ⟨rfl, hpost⟩
  | crashed message =>
    rw [Alike, bind_crashed hfirst, bind_crashed hsecond]
    exact ⟨rfl, hpost⟩

/-- Entries in the log make no difference, even if they differ. -/
theorem Alike.note_bind {severity severity' : Severity} {text text' : String}
    {next : Unit → Action σ β} {next' : Unit → Action τ β} {post : Outcome β → σ → τ → Prop}
    (h : Alike (next ()) (next' ()) world other post) :
    Alike (note severity text >>= next) (note severity' text' >>= next') world other post :=
  h

theorem Alike.update_bind {f : σ → σ} {f' : τ → τ} {next : Unit → Action σ β}
    {next' : Unit → Action τ β} {post : Outcome β → σ → τ → Prop}
    (h : Alike (next ()) (next' ()) (f world) (f' other) post) :
    Alike (update f >>= next) (update f' >>= next') world other post :=
  h

theorem Alike.world_bind {next : σ → Action σ β} {next' : τ → Action τ β}
    {post : Outcome β → σ → τ → Prop} (h : Alike (next world) (next' other) world other post) :
    Alike (Action.world >>= next) (Action.world >>= next') world other post :=
  h

/-- How an action ends of which an attempt is made. -/
def Attempted (post : Outcome (Except Failure α) → σ → τ → Prop) : Outcome α → σ → τ → Prop
  | .done value => post (.done (.ok value))
  | .failed failure => post (.done (.error failure))
  | .crashed message => post (.crashed message)

theorem Alike.attempt {post : Outcome (Except Failure α) → σ → τ → Prop}
    (h : Alike first second world other (Attempted post)) :
    Alike first.attempt second.attempt world other post := by
  obtain ⟨houtcome, hpost⟩ := h
  rcases hfirst : first world with ⟨outcome, later, log⟩
  rcases hsecond : second other with ⟨outcome', later', log'⟩
  rw [hfirst, hsecond] at houtcome
  rw [hfirst, hsecond] at hpost
  obtain rfl : outcome' = outcome := houtcome
  cases outcome' <;>
    · simp only [Alike, Action.attempt, hfirst, hsecond, true_and]
      exact hpost

section Keep

variable {R : σ → τ → Prop}

/-- A sequence of actions that are alike on related worlds and leave related worlds. -/
theorem Alike.bind_keep {next : α → Action σ β} {next' : α → Action τ β}
    (h : Alike first second world other fun _ => R)
    (hnext : ∀ value later later', R later later' →
      Alike (next value) (next' value) later later' fun _ => R) :
    Alike (first >>= next) (second >>= next') world other fun _ => R := by
  refine .bind (h.mono fun outcome later later' hlater => ?_)
  cases outcome with
  | done value => exact hnext value later later' hlater
  | failed failure => exact hlater
  | crashed message => exact hlater

theorem Alike.attempt_keep (h : Alike first second world other fun _ => R) :
    Alike first.attempt second.attempt world other fun _ => R := by
  refine .attempt (h.mono fun outcome later later' hlater => ?_)
  cases outcome <;> exact hlater

/-- A sequence in which the two sides go on with values that correspond to each other. -/
theorem Alike.bind_map {γ : Type} {f : γ → α} {second : Action τ γ} {next : α → Action σ β}
    {next' : γ → Action τ β} (h : Alike first (f <$> second) world other fun _ => R)
    (hnext : ∀ value later later', R later later' →
      Alike (next (f value)) (next' value) later later' fun _ => R) :
    Alike (first >>= next) (second >>= next') world other fun _ => R := by
  rw [Alike, map_apply] at h
  obtain ⟨houtcome, hR⟩ := h
  rcases hsecond : second other with ⟨value | failure | message, later', log'⟩
  all_goals
    rw [hsecond] at houtcome hR
    rcases hfirst : first world with ⟨outcome, later, log⟩
    rw [hfirst] at houtcome hR
    obtain rfl : outcome = _ := houtcome.symm
  · rw [Alike, bind_done hfirst, bind_done hsecond]
    exact hnext value later later' hR
  · rw [Alike, bind_failed hfirst, bind_failed hsecond]
    exact ⟨rfl, hR⟩
  · rw [Alike, bind_crashed hfirst, bind_crashed hsecond]
    exact ⟨rfl, hR⟩

end Keep

/-- An action on a part is alike if it is alike on the parts. -/
theorem Alike.on {σ' τ' : Type} {part : Lens σ σ'} {part' : Lens τ τ'} {first : Action σ' α}
    {second : Action τ' α}
    (h : Alike first second (part.get world) (part'.get other) fun outcome later later' =>
      post outcome (part.set later world) (part'.set later' other)) :
    Alike (first.on part) (second.on part') world other post :=
  h

/-- Looking at a part leaves both worlds as they are. -/
theorem Alike.look_bind {σ' τ' : Type} {part : Lens σ σ'} {part' : Lens τ τ'} {next : σ' → Action σ β}
    {next' : τ' → Action τ β} {post : Outcome β → σ → τ → Prop}
    (h : Alike (next (part.get world)) (next' (part'.get other)) world other post) :
    Alike (Action.world.on part >>= next) (Action.world.on part' >>= next') world other post := by
  have hlook : Action.world.on part world = ⟨.done (part.get world), world, []⟩ := by
    simp [Action.on, Action.world, part.set_get]
  have hlook' : Action.world.on part' other = ⟨.done (part'.get other), other, []⟩ := by
    simp [Action.on, Action.world, part'.set_get]
  rw [Alike, bind_done hlook, bind_done hlook']
  exact h

theorem Alike.update_on_bind {σ' τ' : Type} {part : Lens σ σ'} {part' : Lens τ τ'} {f : σ' → σ'}
    {f' : τ' → τ'} {next : Unit → Action σ β} {next' : Unit → Action τ β}
    {post : Outcome β → σ → τ → Prop}
    (h : Alike (next ()) (next' ()) (part.set (f (part.get world)) world)
      (part'.set (f' (part'.get other)) other) post) :
    Alike ((update f).on part >>= next) ((update f').on part' >>= next') world other post :=
  h

end Action

namespace Script

variable {σ τ α : Type} {Call : Type → Type u} {perform : {β : Type} → Call β → Action σ β}
  {perform' : {β : Type} → Call β → Action τ β} {R : σ → τ → Prop}

/-- If every allowed call is alike on related worlds, and leaves related worlds, then so is and does
every script of allowed calls. -/
theorem exec_alike_of_all {allowed : {β : Type} → Call β → Prop}
    (h : ∀ {β : Type} (request : Call β) (world : σ) (other : τ), allowed request → R world other →
      Action.Alike (perform request) (perform' request) world other fun _ => R)
    {script : Script Failure Call α} (hall : script.All allowed) {world : σ} {other : τ}
    (hR : R world other) :
    Action.Alike (exec perform script) (exec perform' script) world other fun _ => R := by
  induction script generalizing world other with
  | finish result => exact Action.alike_ofExcept hR
  | call request next ih =>
    rw [exec_call, exec_call]
    refine .bind (.attempt ((h request world other hall.1 hR).mono ?_))
    intro outcome later later' hlater
    cases outcome with
    | done value => exact ih (.ok value) (hall.2 _) hlater
    | failed failure => exact ih (.error failure) (hall.2 _) hlater
    | crashed message => exact hlater

/-- If every call is alike on related worlds, and leaves related worlds, then so is and does every
script. -/
theorem exec_alike
    (h : ∀ {β : Type} (request : Call β) (world : σ) (other : τ), R world other →
      Action.Alike (perform request) (perform' request) world other fun _ => R)
    (script : Script Failure Call α) {world : σ} {other : τ} (hR : R world other) :
    Action.Alike (exec perform script) (exec perform' script) world other fun _ => R :=
  exec_alike_of_all (fun request world other _ => h request world other)
    (all_of_forall (fun _ => trivial) script) hR

end Script

end CoprocReset
