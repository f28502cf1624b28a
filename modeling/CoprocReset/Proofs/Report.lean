import CoprocReset.Proofs.Script

/-!
# What actions log

`Reports` says what an action leads to from a world, as `Yields` does, and what it has logged by
then. The log of a sequence is the logs of its parts one after the other (`reports_bind`), so a rule
for a sequence goes on from the log of the first part.
-/

namespace CoprocReset

namespace Action

variable {σ τ α β : Type} {action : Action σ α} {world : σ}
  {post : Except Failure α → σ → Log → Prop}

/-- Unless it crashes, the action leads to a result, a world and a log with the property. -/
def Reports (action : Action σ α) (world : σ) (post : Except Failure α → σ → Log → Prop) : Prop :=
  ∀ result later log, action world = ⟨.ofExcept result, later, log⟩ → post result later log

theorem reports_of_forall (h : ∀ result later log, post result later log) :
    action.Reports world post := fun result later log _ => h result later log

theorem Reports.mono {post' : Except Failure α → σ → Log → Prop} (h : action.Reports world post)
    (himp : ∀ result later log, post result later log → post' result later log) :
    action.Reports world post' := fun result later log hrun => himp _ _ _ (h result later log hrun)

/-- What an action reports, from what it comes back with. -/
theorem reports_of_run (result : Except Failure α) {later : σ} {log : Log}
    (hrun : action world = ⟨.ofExcept result, later, log⟩) (h : post result later log) :
    action.Reports world post := by
  intro result' later' log' hrun'
  obtain ⟨hresult, rfl, rfl⟩ := Run.mk.inj (hrun.symm.trans hrun')
  rwa [← Outcome.ofExcept_inj.1 hresult]

/-- What an action leads to, whatever it logs. -/
theorem Yields.reports {post : Except Failure α → σ → Prop} (h : action.Yields world post) :
    action.Reports world fun result later _ => post result later := by
  intro result later log hrun
  cases result <;> simpa [Yields, hrun, Outcome.ofExcept] using h

@[simp] theorem reports_ofExcept (result : Except Failure α) :
    (ofExcept result : Action σ α).Reports world post ↔ post result world [] :=
  ⟨fun h => h result world [] rfl, fun h => reports_of_run result rfl h⟩

theorem reports_note (severity : Severity) (text : String)
    {post : Except Failure Unit → σ → Log → Prop}
    (h : post (.ok ()) world [⟨severity, text⟩]) :
    (note severity text : Action σ Unit).Reports world post :=
  reports_of_run (.ok ()) rfl h

/-- A sequence reports what its second part does, after the first, from the log of the first on. -/
theorem reports_bind {first : Action σ α} {next : α → Action σ β}
    {post : Except Failure β → σ → Log → Prop}
    (h : first.Reports world fun result middle log =>
      match result with
      | .ok value => (next value).Reports middle fun result later log' =>
          post result later (log ++ log')
      | .error failure => post (.error failure) middle log) :
    (first >>= next).Reports world post := by
  intro result later log hrun
  rcases hfirst : first world with ⟨value | failure | message, middle, log'⟩
  · rw [bind_done hfirst] at hrun
    obtain ⟨hresult, rfl, rfl⟩ := Run.mk.inj hrun
    exact h (.ok value) middle log' hfirst result _ _ (by rw [← hresult])
  · rw [bind_failed hfirst] at hrun
    obtain ⟨hresult, rfl, rfl⟩ := Run.mk.inj hrun
    obtain rfl : .error failure = result := Outcome.ofExcept_inj.1 hresult
    exact h (.error failure) _ _ hfirst
  · rw [bind_crashed hfirst] at hrun
    exact absurd (congrArg Run.outcome hrun) Outcome.crashed_ne_ofExcept

theorem reports_attempt {post : Except Failure (Except Failure α) → σ → Log → Prop}
    (h : action.Reports world fun result later log => post (.ok result) later log) :
    action.attempt.Reports world post := by
  intro result later log hrun
  obtain ⟨answer, hanswer⟩ | ⟨message, hcrashed⟩ := (action world).outcome.answered_or_crashed
  · have haction : action world = ⟨.ofExcept answer, (action world).world, (action world).log⟩ := by
      rw [← hanswer]
    rw [attempt_answered haction] at hrun
    obtain ⟨hresult, rfl, rfl⟩ := Run.mk.inj hrun
    obtain rfl : .ok answer = result := Outcome.ofExcept_inj.1 hresult
    exact h answer _ _ haction
  · have hattempt : (action.attempt world).outcome = .crashed message := by
      simp [attempt, hcrashed]
    rw [hrun] at hattempt
    exact absurd hattempt.symm Outcome.crashed_ne_ofExcept

theorem reports_on {part : Lens σ τ} {inner : Action τ α}
    (h : inner.Reports (part.get world) fun result later log =>
      post result (part.set later world) log) :
    (inner.on part).Reports world post := by
  intro result later log hrun
  obtain ⟨hresult, rfl, rfl⟩ := Run.mk.inj hrun
  exact h result _ _ (by rw [← hresult])

end Action

/-- The record of a call does not come into its log. -/
theorem Script.reports_recording {σ α E : Type} {Call : Type → Type _}
    {perform : {β : Type} → Call β → Action σ β}
    {entry : {β : Type} → Call β → Except Failure β → List E} {request : Call α} {world : σ}
    {record : List E} {post : Except Failure α → σ × List E → Log → Prop}
    (h : (perform request).Reports world fun result later log =>
      post result (later, record ++ entry request result) log) :
    (Script.recording perform entry request).Reports (world, record) post := by
  intro result later log hrun
  obtain ⟨hresult, rfl, rfl⟩ := Run.mk.inj hrun
  rw [hresult]
  have hpost := h result _ _ (by rw [← hresult])
  cases result <;> exact hpost

end CoprocReset
