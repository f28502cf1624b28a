import CoprocReset.Proofs.Lifecycle.Stage

/-!
# The history of a lifecycle

`recorded` carries a script of a lifecycle out and writes its calls down, `record` a whole
attachment or detachment from the call to the return. The record disturbs nothing: without it,
`record` is the lifecycle (`record_eq`).

`Leads` says of a script where it leads from a stage and the books of a station, whatever its calls
are answered: the calls follow `Step`, and the result, the stage and the books at the end have a
property. There is one rule for each way a script is put together, and one for each function of a
lifecycle.
-/

namespace CoprocReset

namespace Lifecycle

variable {W L P : Type}

/-- What is written down of a call and its answer. Nobody sees a lifecycle keep its books. -/
def entry : {α : Type} → LifecycleCall L α → Except Failure α → List (Event L)
  | _, .acquire request, answer => [.acquire request answer]
  | _, .set line level, answer => [.set line level answer]
  | _, .wait ms, answer => [.wait ms answer]
  | _, .release line, answer => [.release line answer]
  | _, .publish _, answer => [.publish answer]
  | _, .unpublish, answer => [.unpublish answer]
  | _, .keep _, _ => []

/-- A script carried out with its calls written down. -/
def recorded {α : Type} (lifecycle : Lifecycle W L P) (script : LifecycleScript L α) :
    Action (Station W L P × List (Event L)) α :=
  script.exec (Script.recording lifecycle.carryOut entry)

/-- The script that carries out what a lifecycle was told. -/
def script (lifecycle : Lifecycle W L P) : Verb → LifecycleScript L Unit
  | .attach => Scripted.attach lifecycle >>= fun _ => pure ()
  | .detach => Scripted.detach lifecycle

/-- What a lifecycle was told, carried out with its history from the call to the return. -/
def record (lifecycle : Lifecycle W L P) (verb : Verb) :
    Action (Station W L P × List (Event L)) Unit := fun (station, history) =>
  let run := lifecycle.recorded (lifecycle.script verb) (station, history ++ [.called verb])
  ⟨run.outcome, (run.world.1, run.world.2 ++ [.returned verb run.outcome]), run.log⟩

/-- What a lifecycle was told, carried out. -/
def perform (lifecycle : Lifecycle W L P) : Verb → Action (Station W L P) Unit
  | .attach => lifecycle.attach >>= fun _ => pure ()
  | .detach => lifecycle.detach

/-- Without its history, what is recorded is what the lifecycle does. -/
theorem record_eq {lifecycle : Lifecycle W L P} (hcalm : lifecycle.hardware.Calm) (verb : Verb)
    (station : Station W L P) (history : List (Event L)) :
    let run := lifecycle.record verb (station, history)
    (⟨run.outcome, run.world.1, run.log⟩ : Run _ Unit) = lifecycle.perform verb station := by
  have hscript : (lifecycle.script verb).exec lifecycle.carryOut = lifecycle.perform verb := by
    cases verb with
    | attach => simp only [script, perform, Script.exec_bind, Scripted.exec_attach hcalm,
        Script.exec_pure]
    | detach => exact Scripted.exec_detach hcalm
  rw [← hscript]
  exact Script.exec_recording lifecycle.carryOut entry _ station _

theorem yields_record {lifecycle : Lifecycle W L P} {verb : Verb} {station : Station W L P}
    {history : List (Event L)}
    {post : Except Failure Unit → Station W L P × List (Event L) → Prop} :
    (lifecycle.record verb).Yields (station, history) post ↔
      (lifecycle.recorded (lifecycle.script verb)).Yields (station, history ++ [.called verb])
        fun result later => post result (later.1, later.2 ++ [.returned verb (.ofExcept result)]) := by
  rcases h : lifecycle.recorded (lifecycle.script verb) (station, history ++ [.called verb])
    with ⟨_ | _ | _, _, _⟩ <;>
    simp [Action.Yields, record, h, Outcome.ofExcept]

/-- In the wrong phase nothing is done and nothing is changed. -/
theorem perform_refused (lifecycle : Lifecycle W L P) {verb : Verb} {station : Station W L P}
    (h : station.phase ≠ verb.phase) :
    lifecycle.perform verb station =
      ⟨.failed (lifecycle.outOfPhase verb.name station.phase), station, []⟩ := by
  cases verb with
  | attach => rw [perform, Action.bind_failed (attach_refused h), Verb.name]
  | detach => exact detach_refused h

theorem recorded_look {lifecycle : Lifecycle W L P} {α : Type}
    (next : Books L → LifecycleScript L α)
    (station : Station W L P) (history : List (Event L)) :
    lifecycle.recorded (Scripted.keep Action.world >>= next) (station, history) =
      lifecycle.recorded (next station.books) (station, history) := by
  have hlook : lifecycle.recorded (Scripted.keep Action.world) (station, history) =
      ⟨.done station.books, (station, history), []⟩ := by
    simp only [recorded, Scripted.keep, Script.exec_ask, Script.recording, carryOut, Action.on,
      Action.world, entry, List.append_nil, Station.booksPart.set_get]
  simp only [recorded, Script.exec_bind] at hlook ⊢
  rw [Action.bind_done hlook, List.nil_append]

theorem record_refused (lifecycle : Lifecycle W L P) {verb : Verb} {station : Station W L P}
    (history : List (Event L)) (h : station.phase ≠ verb.phase) :
    lifecycle.record verb (station, history) =
      ⟨.failed (lifecycle.outOfPhase verb.name station.phase),
        (station, history ++ [.called verb,
          .returned verb (.failed (lifecycle.outOfPhase verb.name station.phase))]), []⟩ := by
  have hrefused : lifecycle.recorded (lifecycle.script verb) (station, history ++ [.called verb]) =
      ⟨.failed (lifecycle.outOfPhase verb.name station.phase),
        (station, history ++ [.called verb]), []⟩ := by
    cases verb with
    | attach =>
      have hbooks : station.books.phase ≠ .unattached := h
      rw [script, Scripted.attach, bind_assoc, recorded_look]
      simp only [hbooks, ne_eq, not_false_eq_true, if_true]
      rfl
    | detach =>
      have hbooks : station.books.phase ≠ .attached := h
      rw [script, Scripted.detach, recorded_look]
      simp only [hbooks, ne_eq, not_false_eq_true, if_true]
      rfl
  simp [record, hrefused]

/-! ## Where a script leads -/

/-- Whatever its calls are answered, the script leads from the stage and the books to a result, a
stage and books with the property. -/
def Leads {α : Type} (lifecycle : Lifecycle W L P) (script : LifecycleScript L α)
    (stage : Stage L) (books : Books L)
    (post : Except Failure α → Stage L → Books L → Prop) : Prop :=
  ∀ station history first, station.books = books → lifecycle.Steps first history stage →
    (lifecycle.recorded script).Yields (station, history) fun result later =>
      ∃ last, lifecycle.Steps first later.2 last ∧ post result last later.1.books

section Rules

variable {lifecycle : Lifecycle W L P} {α β : Type} {stage : Stage L} {books : Books L}

theorem leads_finish {result : Except Failure α}
    {post : Except Failure α → Stage L → Books L → Prop}
    (h : post result stage books) : lifecycle.Leads (.finish result) stage books post := by
  rintro station history first rfl hsteps
  rw [recorded, Script.exec_finish, Action.yields_ofExcept]
  exact ⟨stage, hsteps, h⟩

theorem leads_bind {x : LifecycleScript L α} {f : α → LifecycleScript L β}
    {post : Except Failure β → Stage L → Books L → Prop}
    (h : lifecycle.Leads x stage books fun result stage books =>
      match result with
      | .ok value => lifecycle.Leads (f value) stage books post
      | .error failure => post (.error failure) stage books) :
    lifecycle.Leads (x >>= f) stage books post := by
  intro station history first hbooks hsteps
  rw [recorded, Script.exec_bind, Action.yields_bind]
  refine (h station history first hbooks hsteps).mono fun result later hl => ?_
  obtain ⟨middle, hmiddle, hpost⟩ := hl
  cases result with
  | ok value => exact hpost later.1 later.2 first rfl hmiddle
  | error failure => exact ⟨middle, hmiddle, hpost⟩

theorem leads_attempt {x : LifecycleScript L α}
    {post : Except Failure (Except Failure α) → Stage L → Books L → Prop}
    (h : lifecycle.Leads x stage books fun result => post (.ok result)) :
    lifecycle.Leads x.attempt stage books post := by
  intro station history first hbooks hsteps
  rw [recorded, Script.exec_attempt, Action.yields_attempt]
  exact h station history first hbooks hsteps

theorem leads_keep {action : Action (Books L) α}
    {post : Except Failure α → Stage L → Books L → Prop}
    (h : action.Yields books fun result later => post result stage later) :
    lifecycle.Leads (Scripted.keep action) stage books post := by
  rintro station history first rfl hsteps
  rw [recorded, Scripted.keep, Script.exec_ask, Script.yields_recording]
  refine Action.yields_on.2 (h.mono fun result later hl => ⟨stage, ?_, hl⟩)
  simpa [entry] using hsteps

/-- No call on the hardware or on the publisher is an entry in the books. -/
theorem carryOut_keeps_books {request : LifecycleCall L α}
    (hentry : ∀ answer, entry request answer ≠ [])
    (station : Station W L P) :
    (lifecycle.carryOut request).Yields station fun _ later => later.books = station.books := by
  have hworld {β : Type} (action : Action W β) :
      (action.on Station.worldPart).Yields station fun _ later => later.books = station.books :=
    Action.yields_on.2 (Action.yields_of_forall fun _ _ => rfl)
  cases request with
  | acquire | set | wait | release => exact hworld _
  | publish | unpublish =>
    exact (Station.publisher_keeps lifecycle.hardware.keeps_true _ trivial).mono
      fun _ _ hkeeps => hkeeps.2
  | keep => exact absurd rfl (hentry (.error (.internal "")))

theorem leads_ask {request : LifecycleCall L α}
    {post : Except Failure α → Stage L → Books L → Prop}
    (h : ∀ answer, ∃ event next, entry request answer = [event] ∧ lifecycle.Step stage event next ∧
      post answer next books) :
    lifecycle.Leads (Script.ask request) stage books post := by
  rintro station history first rfl hsteps
  rw [recorded, Script.exec_ask, Script.yields_recording]
  have hentry : ∀ answer, entry request answer ≠ [] := fun answer => by
    obtain ⟨event, _, hentry, _⟩ := h answer
    simp [hentry]
  refine (carryOut_keeps_books hentry station).mono fun answer later hbooks => ?_
  obtain ⟨event, next, hentry, hstep, hpost⟩ := h answer
  exact ⟨next, hentry ▸ hsteps.snoc hstep, by rwa [hbooks]⟩

/-! ## Rules for what a lifecycle does -/

theorem leads_note {severity : Severity} {text : String}
    {post : Except Failure Unit → Stage L → Books L → Prop} (h : post (.ok ()) stage books) :
    lifecycle.Leads (Scripted.note severity text) stage books post :=
  leads_keep h

theorem leads_look {next : Books L → LifecycleScript L β}
    {post : Except Failure β → Stage L → Books L → Prop}
    (h : lifecycle.Leads (next books) stage books post) :
    lifecycle.Leads (Scripted.keep Action.world >>= next) stage books post :=
  leads_bind (leads_keep h)

theorem leads_makeController {name : String} {pair : LinePair L}
    {next : Handle → LifecycleScript L β} {post : Except Failure β → Stage L → Books L → Prop}
    (h : lifecycle.Leads (next books.made) stage
      { books with
        controllers := Station.replace books.controllers books.made (.ofPair name pair)
        made := books.made + 1 } post) :
    lifecycle.Leads (Scripted.keep (Books.makeController name pair) >>= next) stage books post :=
  leads_bind (leads_keep h)

theorem leads_setPhase {phase : Phase} {post : Except Failure Unit → Stage L → Books L → Prop}
    (h : post (.ok ()) stage { books with phase }) :
    lifecycle.Leads (Scripted.setPhase phase) stage books post :=
  leads_keep h

theorem leads_setCurrent {current : Option Handle}
    {post : Except Failure Unit → Stage L → Books L → Prop}
    (h : post (.ok ()) stage { books with current }) :
    lifecycle.Leads (Scripted.setCurrent current) stage books post :=
  leads_keep h

/-- Forcing a coprocessor into reset leads to the release of its lines, whatever comes of it. -/
theorem leads_force {verb : Verb} {pair : LinePair L}
    {post : Except Failure Unit → Stage L → Books L → Prop}
    (h : ∀ result, post result (.releasing verb pair) books) :
    lifecycle.Leads (Scripted.drive pair .hold) (.forcing verb pair) books post := by
  refine leads_bind (leads_ask fun answer => ?_)
  cases answer with
  | error failure => exact ⟨_, _, rfl, .resetNotForced verb pair failure, h _⟩
  | ok _ =>
    refine ⟨_, _, rfl, .resetForced verb pair, leads_ask fun answer => ?_⟩
    exact ⟨_, _, rfl, .bootSelectForced verb pair answer, h _⟩

/-- Both lines are released, even if the first release fails. -/
theorem leads_release {verb : Verb} {pair : LinePair L}
    {post : Except Failure Unit → Stage L → Books L → Prop}
    (h : ∀ result, post result (.ended verb) books) :
    lifecycle.Leads (Scripted.release pair) (.releasing verb pair) books post := by
  refine leads_bind (leads_attempt (leads_ask fun reset => ?_))
  refine ⟨_, _, rfl, .resetReleased verb pair reset, ?_⟩
  refine leads_bind (leads_attempt (leads_ask fun bootSelect => ?_))
  refine ⟨_, _, rfl, .bootSelectReleased verb pair.bootSelect bootSelect, ?_⟩
  cases bootSelect with
  | error failure => exact leads_bind (leads_note (leads_finish (h _)))
  | ok _ => exact leads_finish (h _)

/-- Either no line is in hand afterwards or both are. -/
theorem leads_acquireLines {post : Except Failure (LinePair L) → Stage L → Books L → Prop}
    (hfailed : ∀ failure, post (.error failure) (.ended .attach) books)
    (hdone : ∀ pair,
      post (.ok pair) (.starting pair (startupCalls lifecycle.target.settle pair)) books) :
    lifecycle.Leads (Scripted.acquireLines lifecycle) .attaching books post := by
  refine leads_bind (leads_ask fun reset => ?_)
  cases reset with
  | error failure => exact ⟨_, _, rfl, .resetRefused failure, hfailed failure⟩
  | ok reset =>
    refine ⟨_, _, rfl, .resetAcquired reset, leads_bind (leads_attempt ?_)⟩
    refine leads_ask fun bootSelect => ?_
    cases bootSelect with
    | ok bootSelect =>
      exact ⟨_, _, rfl, .bootSelectAcquired reset bootSelect,
        leads_finish (hdone ⟨reset, bootSelect⟩)⟩
    | error failure =>
      refine ⟨_, _, rfl, .bootSelectRefused reset failure, leads_bind (leads_attempt ?_)⟩
      refine leads_ask fun answer => ⟨_, _, rfl, .givenBack reset answer, ?_⟩
      cases answer with
      | ok _ => exact leads_finish (hfailed failure)
      | error refusal => exact leads_bind (leads_note (leads_finish (hfailed failure)))

/-- A call of the startup. -/
theorem leads_startupCall {pair : LinePair L} {call : StartupCall L} {left : List (StartupCall L)}
    {request : LifecycleCall L Unit}
    (hentry : ∀ answer, entry request answer = [call.event answer])
    {post : Except Failure Unit → Stage L → Books L → Prop}
    (hfailed : ∀ failure, post (.error failure) (.releasing .attach pair) books)
    (hdone : post (.ok ()) (.starting pair left) books) :
    lifecycle.Leads (Script.ask request) (.starting pair (call :: left)) books post := by
  refine leads_ask fun answer => ?_
  cases answer with
  | error failure => exact ⟨_, _, hentry _, .brokenOff pair call left failure, hfailed failure⟩
  | ok _ => exact ⟨_, _, hentry _, .goneOn pair call left, hdone⟩

theorem leads_startUp {pair : LinePair L} {post : Except Failure Unit → Stage L → Books L → Prop}
    (hfailed : ∀ failure, post (.error failure) (.releasing .attach pair) books)
    (hdone : post (.ok ()) (.starting pair []) books) :
    lifecycle.Leads (Scripted.startUp lifecycle pair)
      (.starting pair (startupCalls lifecycle.target.settle pair)) books post := by
  refine leads_bind (leads_note (leads_bind (leads_note (leads_bind (leads_bind ?_)))))
  refine leads_startupCall (fun _ => rfl) hfailed ?_
  refine leads_startupCall (fun _ => rfl) hfailed (leads_bind (leads_note (leads_bind ?_)))
  refine leads_startupCall (fun _ => rfl) hfailed (leads_bind (leads_note ?_))
  refine leads_bind (leads_bind ?_)
  refine leads_startupCall (fun _ => rfl) hfailed ?_
  exact leads_startupCall (fun _ => rfl) hfailed (leads_note hdone)

/-- The controller is without lines after it was torn down. -/
theorem leads_tearDown {verb : Verb} {handle : Handle} {name : String} {pair : LinePair L}
    (hholding : books.controllers handle = ⟨name, .holding pair⟩)
    {post : Except Failure Unit → Stage L → Books L → Prop}
    (h : ∀ result, post result (.ended verb)
      { books with controllers := Station.replace books.controllers handle ⟨name, .vacant⟩ }) :
    lifecycle.Leads (Scripted.tearDown handle) (.forcing verb pair) books post := by
  have htake {post : Except Failure (String × LinePair L) → Books L → Prop}
      (h : post (.ok (name, pair))
        { books with controllers := Station.replace books.controllers handle ⟨name, .vacant⟩ }) :
      (Books.takePair handle).Yields books post := by
    simpa [Action.Yields, Books.takePair, hholding] using h
  refine leads_bind (leads_bind (leads_keep (htake (leads_bind (leads_attempt ?_)))))
  refine leads_force fun result => ?_
  cases result with
  | ok _ => exact leads_bind (leads_note (leads_finish (leads_release h)))
  | error failure =>
    exact leads_bind (leads_note (leads_bind (leads_note (leads_finish (leads_release h)))))

/-- Either no line is in hand afterwards, or the controller that was made has both. -/
theorem leads_bringUp {post : Except Failure Handle → Stage L → Books L → Prop}
    (hfailed : ∀ failure controllers made,
      post (.error failure) (.ended .attach) { books with controllers, made })
    (hdone : ∀ handle name pair controllers made, controllers handle = ⟨name, .holding pair⟩ →
      post (.ok handle) (.published pair) { books with controllers, made }) :
    lifecycle.Leads (Scripted.bringUp lifecycle) .attaching books post := by
  refine leads_bind (leads_acquireLines (fun failure => hfailed failure _ _) fun pair => ?_)
  refine leads_bind (leads_attempt (leads_startUp (fun failure => ?_) ?_))
  · refine leads_bind (leads_attempt (leads_release fun result => ?_))
    cases result with
    | ok _ => exact leads_finish (hfailed failure _ _)
    | error refusal => exact leads_bind (leads_note (leads_finish (hfailed failure _ _)))
  · have hholding : Station.replace books.controllers books.made
        (.ofPair lifecycle.target.attributeName pair) books.made =
        ⟨lifecycle.target.attributeName, .holding pair⟩ := Station.replace_same ..
    refine leads_makeController (leads_bind (leads_attempt ?_))
    refine leads_ask fun published => ?_
    cases published with
    | ok _ => exact ⟨_, _, rfl, .published pair, leads_finish (hdone _ _ pair _ _ hholding)⟩
    | error failure =>
      refine ⟨_, _, rfl, .notPublished pair failure, leads_bind (leads_attempt ?_)⟩
      refine leads_tearDown hholding fun result => ?_
      cases result with
      | ok _ => exact leads_finish (hfailed failure _ _)
      | error refusal => exact leads_bind (leads_note (leads_finish (hfailed failure _ _)))

end Rules

/-! ## At rest -/

/-- Between two calls the books agree with the stage: the device is unattached and no line is in
hand, or it is attached and the controller in the books has the lines in hand. -/
inductive AtRest (books : Books L) : Stage L → Prop
  | unattached (hphase : books.phase = .unattached) (hcurrent : books.current = none) :
    AtRest books .idle
  | attached {handle : Handle} {name : String} {pair : LinePair L}
    (hphase : books.phase = .attached) (hcurrent : books.current = some handle)
    (hholding : books.controllers handle = ⟨name, .holding pair⟩) : AtRest books (.attached pair)

variable {lifecycle : Lifecycle W L P} {books : Books L} {rest : Stage L}

/-- The script has come to an end from which its return leads to rest. -/
def Returns (lifecycle : Lifecycle W L P) (verb : Verb) (result : Except Failure Unit)
    (stage : Stage L) (books : Books L) : Prop :=
  ∃ rest, lifecycle.Step stage (.returned verb (.ofExcept result)) rest ∧ AtRest books rest

theorem leads_attach (hphase : books.phase = .unattached) (hcurrent : books.current = none) :
    lifecycle.Leads (lifecycle.script .attach) .attaching books (lifecycle.Returns .attach) := by
  refine leads_bind (leads_look ?_)
  simp only [hphase, ne_eq, not_true_eq_false, if_false]
  refine leads_bind (leads_note (leads_bind (leads_setPhase (leads_bind (leads_attempt ?_)))))
  refine leads_bringUp (fun failure controllers made => ?_)
    fun handle name pair controllers made hholding => ?_
  · refine leads_bind (leads_note (leads_bind (leads_setPhase (leads_finish ?_))))
    exact ⟨_, .attachFailed failure, .unattached rfl hcurrent⟩
  · refine leads_bind (leads_setCurrent (leads_bind (leads_setPhase (leads_bind (leads_note ?_)))))
    exact leads_finish (leads_finish ⟨_, .attachDone pair, .attached rfl rfl hholding⟩)

theorem leads_detach {handle : Handle} {name : String} {pair : LinePair L}
    (hphase : books.phase = .attached) (hcurrent : books.current = some handle)
    (hholding : books.controllers handle = ⟨name, .holding pair⟩) :
    lifecycle.Leads (lifecycle.script .detach) (.detaching pair) books
      (lifecycle.Returns .detach) := by
  have hdismiss : ∀ unpublished,
      lifecycle.Leads (do
          let released ← (Scripted.dismiss lifecycle).attempt
          Scripted.setPhase .unattached
          Scripted.note .info (lifecycle.target.attributeName ++ " detached")
          Script.finish (released >>= fun () => unpublished))
        (.forcing .detach pair) { books with phase := .detaching } (lifecycle.Returns .detach) := by
    intro unpublished
    refine leads_bind (leads_attempt (leads_look ?_))
    simp only [hcurrent]
    refine leads_bind (leads_setCurrent (leads_tearDown (by exact hholding) fun released => ?_))
    refine leads_bind (leads_setPhase (leads_bind (leads_note (leads_finish ?_))))
    exact ⟨_, .detachEnded _, .unattached rfl rfl⟩
  refine leads_look ?_
  simp only [hphase, ne_eq, not_true_eq_false, if_false]
  refine leads_bind (leads_note (leads_bind (leads_setPhase (leads_bind (leads_attempt ?_)))))
  refine leads_ask fun unpublished => ⟨_, _, rfl, .unpublished pair unpublished, ?_⟩
  cases unpublished with
  | ok _ => exact hdismiss (.ok ())
  | error failure => exact leads_bind (leads_note (hdismiss (.error failure)))

/-- A call from rest leads to rest. -/
theorem leads_script (lifecycle : Lifecycle W L P) (verb : Verb) (hrest : AtRest books rest) :
    ∃ begun, lifecycle.Step rest (.called verb) begun ∧
      lifecycle.Leads (lifecycle.script verb) begun books (lifecycle.Returns verb) := by
  cases verb with
  | attach =>
    cases hrest with
    | unattached hphase hcurrent => exact ⟨_, .attachCalled, leads_attach hphase hcurrent⟩
    | attached hphase hcurrent hholding =>
      refine ⟨_, .attachRefused _, leads_bind (leads_look ?_)⟩
      have hne : books.phase ≠ .unattached := by simp [hphase]
      simp only [ne_eq, hne, not_false_eq_true, if_true]
      exact leads_finish ⟨_, .refusedAttach _ _, .attached hphase hcurrent hholding⟩
  | detach =>
    cases hrest with
    | attached hphase hcurrent hholding =>
      exact ⟨_, .detachCalled _, leads_detach hphase hcurrent hholding⟩
    | unattached hphase hcurrent =>
      refine ⟨_, .detachRefused, leads_look ?_⟩
      have hne : books.phase ≠ .attached := by simp [hphase]
      simp only [ne_eq, hne, not_false_eq_true, if_true]
      exact leads_finish ⟨_, .refusedDetach _, .unattached hphase hcurrent⟩

end Lifecycle

end CoprocReset
